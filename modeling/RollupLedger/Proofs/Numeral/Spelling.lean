import RollupLedger.Proofs.Numeral
import Mathlib.Data.Nat.Digits.Defs

/-!
# What numerals spell

A text spells a number (`Numeral.Spells`) if its characters, after a mark for the base, are the
digits of the number in that base, of either case and with underscores among them. The reader finds
a word in a text exactly if the text spells the word's number (`quantity?_eq_some_iff`).
-/

set_option autoImplicit false
set_option relaxedAutoImplicit false

namespace RollupLedger.Numeral

/-! ### Digits -/

theorem digitValue?_ofNat : ∀ n < 128, ∀ d < 16,
    (digitValue? (Char.ofNat n) = some d ↔ (Char.ofNat n).toLower = Nat.digitChar d) := by
  decide +kernel

theorem toNat_digitChar_lt : ∀ d < 16, (Nat.digitChar d).toNat < 128 := by
  decide

/-- Only ASCII characters are a digit in one of the two cases. -/
theorem lt_of_toLower_eq {c : Char} {d : Nat} (hd : d < 16) (hc : c.toLower = Nat.digitChar d) :
    c.toNat < 128 := by
  by_contra hhigh
  have hlower : ¬ c.val ≤ 'Z'.val := by
    intro hle
    have hnat : c.toNat ≤ 90 := hle
    omega
  have hsame : c.toLower = c := dif_neg fun h ↦ hlower h.2
  have hlt := toNat_digitChar_lt d hd
  rw [← hc, hsame] at hlt
  exact hhigh hlt

theorem lt_of_digitValue? {c : Char} {d : Nat} (hc : digitValue? c = some d) : c.toNat < 128 := by
  have hle (a b : Char) (hrange : a ≤ c ∧ c ≤ b) : c.toNat ≤ b.toNat := hrange.2
  unfold digitValue? at hc
  split_ifs at hc with hdigit hlower hupper
  · exact Nat.lt_of_le_of_lt (hle _ _ hdigit) (by decide)
  · exact Nat.lt_of_le_of_lt (hle _ _ hlower) (by decide)
  · exact Nat.lt_of_le_of_lt (hle _ _ hupper) (by decide)

theorem digitValue?_eq_some_iff {c : Char} {d : Nat} (hd : d < 16) :
    digitValue? c = some d ↔ c.toLower = Nat.digitChar d := by
  have hiff (hlt : c.toNat < 128) := digitValue?_ofNat c.toNat hlt d hd
  rw [Char.ofNat_toNat] at hiff
  constructor
  · intro hvalue
    exact (hiff (lt_of_digitValue? hvalue)).mp hvalue
  · intro hlower
    exact (hiff (lt_of_toLower_eq hd hlower)).mpr hlower

variable {base d n m : Nat} {c : Char}

theorem digit?_eq_some_iff (hbase : base ≤ 16) :
    digit? base c = some d ↔ c.toLower = Nat.digitChar d ∧ d < base := by
  rw [digit?, Option.filter_eq_some_iff, decide_eq_true_iff]
  refine and_congr_left fun hd ↦ ?_
  exact digitValue?_eq_some_iff (Nat.lt_of_lt_of_le hd hbase)

theorem push?_eq_some_iff (hbase : base ≤ 16) (hc : c ≠ '_') :
    push? base n c = some m ↔
      ∃ d, c.toLower = Nat.digitChar d ∧ d < base ∧ n * base + d = m := by
  rw [push?, if_neg hc, Option.map_eq_some_iff]
  simp only [digit?_eq_some_iff hbase, and_assoc]

/-! ### Bodies -/

/-- The characters are these digits, of either case and with underscores among them. -/
def Shows (base : Nat) (body : List Char) (digits : List Nat) : Prop :=
  (body.filter (· ≠ '_')).map Char.toLower = digits.map Nat.digitChar ∧ ∀ d ∈ digits, d < base

variable {body rest : List Char} {digits : List Nat}

theorem shows_nil : Shows base [] digits ↔ digits = [] := by
  constructor
  · rintro ⟨hdigits, -⟩
    exact List.map_eq_nil_iff.mp hdigits.symm
  · rintro rfl
    exact ⟨rfl, List.forall_mem_nil _⟩

theorem shows_underscore : Shows base ('_' :: rest) digits ↔ Shows base rest digits := Iff.rfl

theorem shows_cons (hc : c ≠ '_') :
    Shows base (c :: rest) digits ↔
      ∃ d others, digits = d :: others ∧ c.toLower = Nat.digitChar d ∧ d < base ∧
        Shows base rest others := by
  rw [Shows, List.filter_cons_of_pos (by simpa using hc), List.map_cons]
  constructor
  · rintro ⟨hdigits, hsmall⟩
    obtain ⟨d, others, rfl, hd, hothers⟩ := List.map_eq_cons_iff.mp hdigits.symm
    rw [List.forall_mem_cons] at hsmall
    exact ⟨d, others, rfl, hd.symm, hsmall.1, hothers.symm, hsmall.2⟩
  · rintro ⟨d, others, rfl, hd, hlt, hothers, hsmall⟩
    rw [List.map_cons, hd, hothers]
    exact ⟨rfl, List.forall_mem_cons.mpr ⟨hlt, hsmall⟩⟩

/-- Reading on from a number appends the digits that are shown to those of the number. -/
theorem foldlM_push?_eq_some_iff (hbase : base ≤ 16) :
    body.foldlM (push? base) n = some m ↔
      ∃ digits, Shows base body digits ∧
        n * base ^ digits.length + Nat.ofDigits base digits.reverse = m := by
  induction body generalizing n with
  | nil =>
    rw [List.foldlM_nil]
    simp only [shows_nil, exists_eq_left, List.length_nil, pow_zero, List.reverse_nil,
      Nat.ofDigits_nil, mul_one, add_zero]
    exact Option.some_inj
  | cons c rest ih =>
    rw [List.foldlM_cons]
    by_cases hc : c = '_'
    · subst hc
      simp only [shows_underscore, ← ih]
      rfl
    · have hhorner (d : Nat) (others : List Nat) :
          n * base ^ (d :: others).length + Nat.ofDigits base (d :: others).reverse =
            (n * base + d) * base ^ others.length + Nat.ofDigits base others.reverse := by
        rw [Nat.ofDigits_reverse_cons, List.length_cons]
        ring
      show (push? base n c).bind _ = some m ↔ _
      rw [Option.bind_eq_some_iff]
      constructor
      · rintro ⟨next, hpush, hrest⟩
        obtain ⟨d, hd, hlt, rfl⟩ := (push?_eq_some_iff hbase hc).mp hpush
        obtain ⟨others, hothers, rfl⟩ := ih.mp hrest
        have hshows := (shows_cons hc).mpr ⟨d, others, rfl, hd, hlt, hothers⟩
        exact ⟨d :: others, hshows, hhorner d others⟩
      · rintro ⟨digits, hshows, rfl⟩
        obtain ⟨d, others, rfl, hd, hlt, hothers⟩ := (shows_cons hc).mp hshows
        refine ⟨n * base + d, (push?_eq_some_iff hbase hc).mpr ⟨d, hd, hlt, rfl⟩, ih.mpr ?_⟩
        exact ⟨others, hothers, (hhorner d others).symm⟩

theorem read?_eq_some_iff (hbase : base ≤ 16) :
    read? base body = some n ↔
      ∃ digits, Shows base body digits ∧ Nat.ofDigits base digits.reverse = n := by
  rw [read?, foldlM_push?_eq_some_iff hbase]
  simp only [zero_mul, zero_add]

/-! ### Spellings -/

/-- What may stand before the digits, and the base that it marks. -/
def marks : List (List Char × Nat) :=
  [([], 10), (['0', 'x'], 16), (['0', 'X'], 16), (['0', 'o'], 8), (['0', 'O'], 8),
    (['0', 'b'], 2), (['0', 'B'], 2)]

/-- A text shows the digits of a number after the mark of their base. Without any digit it is
zero. -/
def Spells (text : String) (n : Nat) : Prop :=
  ∃ mark base body digits, (mark, base) ∈ marks ∧ text.toList = mark ++ body ∧
    Shows base body digits ∧ Nat.ofDigits base digits.reverse = n

theorem base_le_of_mem_marks : ∀ m ∈ marks, m.2 ≤ 16 := by
  decide

/-- What is taken off a text before its digits is a mark. -/
theorem exists_mark (cs : List Char) :
    ∃ mark base body, (mark, base) ∈ marks ∧ cs = mark ++ body ∧ splitBase cs = (base, body) := by
  unfold splitBase
  split
  · exact ⟨['0', 'x'], 16, _, by decide, rfl, rfl⟩
  · exact ⟨['0', 'X'], 16, _, by decide, rfl, rfl⟩
  · exact ⟨['0', 'o'], 8, _, by decide, rfl, rfl⟩
  · exact ⟨['0', 'O'], 8, _, by decide, rfl, rfl⟩
  · exact ⟨['0', 'b'], 2, _, by decide, rfl, rfl⟩
  · exact ⟨['0', 'B'], 2, _, by decide, rfl, rfl⟩
  · exact ⟨[], 10, _, by decide, rfl, rfl⟩

/-- A character that is shown is an underscore or a digit. -/
theorem exists_digit_of_shows (hshows : Shows base body digits) (hmem : c ∈ body) (hc : c ≠ '_') :
    ∃ d < base, c.toLower = Nat.digitChar d := by
  have hlower : c.toLower ∈ digits.map Nat.digitChar := by
    rw [← hshows.1]
    exact List.mem_map_of_mem (List.mem_filter.mpr ⟨hmem, by simpa using hc⟩)
  obtain ⟨d, hd, heq⟩ := List.mem_map.mp hlower
  exact ⟨d, hshows.2 d hd, heq.symm⟩

/-- The letter of a mark is no decimal digit. -/
theorem digitChar_not_mem_letters : ∀ d < 10, Nat.digitChar d ∉ ['x', 'o', 'b'] := by
  decide

/-- Decimal digits alone hold no mark. -/
theorem splitBase_of_decimal (hshows : Shows 10 body digits) : splitBase body = (10, body) := by
  have hletter (letter : Char) (hmem : letter.toLower ∈ ['x', 'o', 'b']) (rest : List Char) :
      body ≠ '0' :: letter :: rest := by
    rintro rfl
    have hmark : letter ≠ '_' := by
      rintro rfl
      revert hmem
      decide
    obtain ⟨d, hd, hdigit⟩ :=
      exists_digit_of_shows hshows (List.mem_cons_of_mem _ List.mem_cons_self) hmark
    rw [hdigit] at hmem
    exact digitChar_not_mem_letters d hd hmem
  unfold splitBase
  split
  · exact absurd rfl (hletter 'x' (by decide) _)
  · exact absurd rfl (hletter 'X' (by decide) _)
  · exact absurd rfl (hletter 'o' (by decide) _)
  · exact absurd rfl (hletter 'O' (by decide) _)
  · exact absurd rfl (hletter 'b' (by decide) _)
  · exact absurd rfl (hletter 'B' (by decide) _)
  · rfl

theorem splitBase_of_shows {mark : List Char} (hmark : (mark, base) ∈ marks)
    (hshows : Shows base body digits) : splitBase (mark ++ body) = (base, body) := by
  simp only [marks, List.mem_cons, List.not_mem_nil, or_false, Prod.mk.injEq] at hmark
  rcases hmark with ⟨rfl, rfl⟩ | ⟨rfl, rfl⟩ | ⟨rfl, rfl⟩ | ⟨rfl, rfl⟩ | ⟨rfl, rfl⟩ | ⟨rfl, rfl⟩ |
    ⟨rfl, rfl⟩
  · exact splitBase_of_decimal hshows
  all_goals rfl

theorem spells_iff {text : String} :
    Spells text n ↔ read? (splitBase text.toList).1 (splitBase text.toList).2 = some n := by
  constructor
  · rintro ⟨mark, base, body, digits, hmark, htext, hshows, hn⟩
    rw [htext, splitBase_of_shows hmark hshows]
    exact (read?_eq_some_iff (base_le_of_mem_marks _ hmark)).mpr ⟨digits, hshows, hn⟩
  · intro hread
    obtain ⟨mark, base, body, hmark, htext, hsplit⟩ := exists_mark text.toList
    rw [hsplit] at hread
    obtain ⟨digits, hshows, hn⟩ := (read?_eq_some_iff (base_le_of_mem_marks _ hmark)).mp hread
    exact ⟨mark, base, body, digits, hmark, htext, hshows, hn⟩

theorem quantity?_eq_some_iff {bits : Nat} {text : String} {word : Word bits} :
    quantity? bits text = some word ↔ Spells text word.toNat := by
  show word? bits (splitBase text.toList).1 (splitBase text.toList).2 = some word ↔ _
  rw [word?, Option.bind_eq_some_iff, spells_iff]
  constructor
  · rintro ⟨n, hread, hword⟩
    rw [Word.ofNat?_eq_some_iff.mp hword]
    exact hread
  · intro hread
    exact ⟨word.toNat, hread, Word.ofNat?_toNat word⟩

/-- The numeral that is written spells the number that it was written from. -/
theorem spells_hex (n : Nat) : Spells (hex n) n := by
  simp only [spells_iff, hex, String.toList_append, String.toList_ofList]
  show read? 16 (Nat.toDigits 16 n) = some n
  exact read?_toDigits (by decide) (by decide) n

theorem hex_injective : Function.Injective hex := by
  intro first second hsame
  have hfirst := spells_iff.mp (spells_hex first)
  rw [hsame, spells_iff.mp (spells_hex second)] at hfirst
  exact (Option.some.inj hfirst).symm

end RollupLedger.Numeral
