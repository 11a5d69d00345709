import RollupLedger.Proofs.Numeral.Decimal
import RollupLedger.Proofs.Word
import RollupLedger.Setup.Configuration
import Mathlib.Algebra.Order.Floor.Semifield
import Mathlib.Data.List.TakeWhile
import Mathlib.Data.Rat.Floor
import Mathlib.Tactic.Linarith
import Mathlib.Tactic.NormNum
import Mathlib.Tactic.Positivity
import Mathlib.Tactic.Ring

/-!
# Fee scalars as numbers

A text denotes a number if it is, but for blanks around it, a decimal numeral: ASCII digits, at
least one in all, with at most one point among them (`Denotes`). Exactly the texts whose number has
an integer part that fits a word are read, and what is read is the number in millionths, rounded
down and cut off at the largest word (`parse_eq_some_iff`). Reading keeps the order of numbers, and
the option for the scalar takes the numbers whose millionths fit 64 bits.
-/

set_option autoImplicit false
set_option relaxedAutoImplicit false

namespace RollupLedger

namespace Text

theorem exists_trim (cs : List Char) :
    ∃ before after, cs = before ++ trim cs ++ after ∧ ∀ c ∈ before ++ after, isBlank c := by
  refine ⟨cs.takeWhile isBlank, ((trimStart cs).reverse.takeWhile isBlank).reverse, ?_, ?_⟩
  · have hend : trimStart cs =
        trim cs ++ ((trimStart cs).reverse.takeWhile isBlank).reverse := by
      rw [trim, trimEnd, ← List.reverse_append, List.takeWhile_append_dropWhile,
        List.reverse_reverse]
    rw [List.append_assoc, ← hend]
    exact List.takeWhile_append_dropWhile.symm
  · intro c hc
    rw [List.mem_append, List.mem_reverse] at hc
    exact hc.elim List.mem_takeWhile_imp List.mem_takeWhile_imp

theorem dropWhile_eq_self {p : Char → Bool} {cs : List Char} (hcs : ∀ c ∈ cs, p c = false) :
    cs.dropWhile p = cs := by
  cases cs with
  | nil => rfl
  | cons c rest => rw [List.dropWhile_cons_of_neg (by simp [hcs c List.mem_cons_self])]

/-- Blanks around characters without blanks are taken off. -/
theorem trim_around {before body after : List Char} (hblank : ∀ c ∈ before ++ after, isBlank c)
    (hbody : ∀ c ∈ body, isBlank c = false) : trim (before ++ body ++ after) = body := by
  rw [List.forall_mem_append] at hblank
  have hbehind : trimEnd (body ++ after) = body := by
    rw [trimEnd, List.reverse_append, List.dropWhile_append_of_pos, dropWhile_eq_self,
      List.reverse_reverse]
    · simpa using hbody
    · simpa using hblank.2
  rw [trim, trimStart, List.append_assoc, List.dropWhile_append_of_pos hblank.1]
  cases body with
  | nil =>
    have hnothing : after.dropWhile isBlank = [] := List.dropWhile_eq_nil_iff.mpr hblank.2
    rw [List.nil_append, hnothing]
    rfl
  | cons c rest =>
    rw [List.cons_append, List.dropWhile_cons_of_neg (by simp [hbody c List.mem_cons_self])]
    exact hbehind

end Text

namespace FeeScalar

/-! ### Numerals and what they denote -/

/-- The characters are the digits of a whole part and those of a fraction, at least one in all, with
a point between them; without a fraction the point may be missing. -/
structure Spells (body whole fraction : List Char) : Prop where
  digits : ∀ c ∈ whole ++ fraction, c.isDigit
  nonempty : whole ++ fraction ≠ []
  pointed : body = whole ++ '.' :: fraction ∨ body = whole ∧ fraction = []

/-- The number that the digits before and after a point denote. -/
def value (whole fraction : List Char) : ℚ :=
  Nat.ofDigitChars 10 whole 0 + Nat.ofDigitChars 10 fraction 0 / 10 ^ fraction.length

/-- Between blanks, the text is a decimal numeral of the number. -/
def Denotes (text : String) (x : ℚ) : Prop :=
  ∃ before body after whole fraction, text.toList = before ++ body ++ after ∧
    (∀ c ∈ before ++ after, Text.isBlank c) ∧ Spells body whole fraction ∧ x = value whole fraction

variable {body whole fraction : List Char} {text : String} {x : ℚ}

theorem isDigit_eq (c : Char) : isDigit c = c.isDigit := by
  rw [Bool.eq_iff_iff, isDigit, Bool.and_eq_true, decide_eq_true_eq, decide_eq_true_eq,
    Numeral.isDigit_iff]
  exact Iff.rfl

theorem not_isBlank_of_isDigit {c : Char} (hc : c.isDigit) : Text.isBlank c = false := by
  have hrange := Numeral.isDigit_iff.mp hc
  have hzero : '0'.toNat = 0x30 := rfl
  have hnine : '9'.toNat = 0x39 := rfl
  simp only [Text.isBlank, Bool.or_eq_false_iff, Bool.and_eq_false_iff, decide_eq_false_iff_not,
    beq_eq_false_iff_ne]
  omega

namespace Spells

variable (hspells : Spells body whole fraction)
include hspells

theorem not_isBlank : ∀ c ∈ body, Text.isBlank c = false := by
  obtain ⟨hwhole, hfraction⟩ := List.forall_mem_append.mp hspells.digits
  intro c hc
  rcases hspells.pointed with rfl | ⟨rfl, -⟩
  · simp only [List.mem_append, List.mem_cons] at hc
    rcases hc with hc | rfl | hc
    · exact not_isBlank_of_isDigit (hwhole c hc)
    · decide
    · exact not_isBlank_of_isDigit (hfraction c hc)
  · exact not_isBlank_of_isDigit (hwhole c hc)

theorem splitPoint_eq : splitPoint body = (whole, fraction) := by
  have hwhole : ∀ c ∈ whole, decide (c ≠ '.') = true := by
    intro c hc
    have hdigit := hspells.digits c (List.mem_append_left _ hc)
    rw [decide_eq_true_iff]
    rintro rfl
    exact absurd hdigit (by decide)
  rcases hspells.pointed with rfl | ⟨rfl, rfl⟩
  · rw [splitPoint, List.takeWhile_append_of_pos hwhole, List.dropWhile_append_of_pos hwhole,
      List.takeWhile_cons_of_neg (by decide), List.dropWhile_cons_of_neg (by decide),
      List.append_nil]
    rfl
  · have hnothing := List.dropWhile_eq_nil_iff.mpr hwhole
    have hall := List.takeWhile_append_dropWhile (p := fun c ↦ decide (c ≠ '.')) (l := body)
    rw [hnothing, List.append_nil] at hall
    rw [splitPoint, hall, hnothing]
    rfl

end Spells

/-- Whatever is split at its first point is the two parts with a point between them, or has none. -/
theorem splitPoint_pointed (body : List Char) :
    body = (splitPoint body).1 ++ '.' :: (splitPoint body).2 ∨
      body = (splitPoint body).1 ∧ (splitPoint body).2 = [] := by
  have hall := List.takeWhile_append_dropWhile (p := fun c ↦ decide (c ≠ '.')) (l := body)
  unfold splitPoint
  cases hrest : body.dropWhile (fun c ↦ decide (c ≠ '.')) with
  | nil =>
    rw [hrest, List.append_nil] at hall
    exact Or.inr ⟨hall.symm, rfl⟩
  | cons c rest =>
    have hpoint : c = '.' := by
      have hstop := List.head?_dropWhile_not (fun c ↦ decide (c ≠ '.')) body
      rw [hrest] at hstop
      simpa using hstop
    rw [hrest, hpoint] at hall
    exact Or.inl hall.symm

/-- What a text denotes is what its characters between the blanks around them spell. -/
theorem denotes_iff : Denotes text x ↔
    ∃ whole fraction, Spells (Text.trim text.toList) whole fraction ∧ x = value whole fraction := by
  constructor
  · rintro ⟨before, body, after, whole, fraction, htext, hblank, hspells, rfl⟩
    have htrim : Text.trim text.toList = body := by
      rw [htext]
      exact Text.trim_around hblank hspells.not_isBlank
    exact ⟨whole, fraction, by rwa [htrim], rfl⟩
  · rintro ⟨whole, fraction, hspells, rfl⟩
    obtain ⟨before, after, htext, hblank⟩ := Text.exists_trim text.toList
    exact ⟨before, _, after, whole, fraction, htext, hblank, hspells, rfl⟩

/-- A text denotes one number at most. -/
theorem Denotes.unique {y : ℚ} (hx : Denotes text x) (hy : Denotes text y) : x = y := by
  obtain ⟨whole, fraction, hspells, rfl⟩ := denotes_iff.mp hx
  obtain ⟨others, parts, hothers, rfl⟩ := denotes_iff.mp hy
  obtain ⟨rfl, rfl⟩ := Prod.mk.inj (hspells.splitPoint_eq.symm.trans hothers.splitPoint_eq)
  rfl

/-! ### Reading -/

theorem value_nonneg (whole fraction : List Char) : 0 ≤ value whole fraction := by
  unfold value
  positivity

theorem floor_value (hfraction : ∀ c ∈ fraction, c.isDigit) :
    ⌊value whole fraction⌋₊ = Nat.ofDigitChars 10 whole 0 := by
  have hlt : Nat.ofDigitChars 10 fraction 0 / 10 ^ fraction.length = 0 :=
    Nat.div_eq_of_lt (Numeral.ofDigitChars_lt hfraction)
  have hfloor : ⌊(Nat.ofDigitChars 10 fraction 0 : ℚ) / 10 ^ fraction.length⌋₊ = 0 := by
    exact_mod_cast (Nat.floor_div_eq_div (K := ℚ) _ _).trans hlt
  rw [value, add_comm, Nat.floor_add_natCast (by positivity), hfloor, Nat.zero_add]

theorem floor_millionths (whole fraction : List Char) :
    ⌊10 ^ 6 * value whole fraction⌋₊ = 10 ^ 6 * Nat.ofDigitChars 10 whole 0 +
      10 ^ 6 * Nat.ofDigitChars 10 fraction 0 / 10 ^ fraction.length := by
  have hfraction : ⌊((10 ^ 6 * Nat.ofDigitChars 10 fraction 0 : ℕ) : ℚ) /
      (10 ^ fraction.length : ℕ)⌋₊ =
        10 ^ 6 * Nat.ofDigitChars 10 fraction 0 / 10 ^ fraction.length :=
    Nat.floor_div_eq_div _ _
  have hsplit : 10 ^ 6 * value whole fraction =
      ((10 ^ 6 * Nat.ofDigitChars 10 fraction 0 : ℕ) : ℚ) / (10 ^ fraction.length : ℕ) +
        (10 ^ 6 * Nat.ofDigitChars 10 whole 0 : ℕ) := by
    rw [value]
    push_cast
    ring
  rw [hsplit, Nat.floor_add_natCast (by positivity), hfraction, Nat.add_comm]

/-- The first six decimals are the millionths of the fraction. -/
theorem exists_decimals (hfraction : ∀ c ∈ fraction, c.isDigit) :
    ∃ decimals : Word 256, Numeral.word? 256 10 (firstDecimals fraction) = some decimals ∧
      decimals.toNat = 10 ^ 6 * Nat.ofDigitChars 10 fraction 0 / 10 ^ fraction.length := by
  have hfilled : ∀ c ∈ fraction ++ List.replicate decimals '0', c.isDigit := by
    intro c hc
    rcases List.mem_append.mp hc with hc | hc
    · exact hfraction c hc
    · rw [(List.mem_replicate.mp hc).2]
      rfl
  have hdigits : ∀ c ∈ firstDecimals fraction, c.isDigit := fun c hc ↦
    hfilled c (List.mem_of_mem_take hc)
  have hnumber : Nat.ofDigitChars 10 (firstDecimals fraction) 0 =
      10 ^ 6 * Nat.ofDigitChars 10 fraction 0 / 10 ^ fraction.length := by
    rw [firstDecimals, Numeral.ofDigitChars_take hfilled, Numeral.ofDigitChars_append_zeros,
      List.length_append, List.length_replicate, Nat.add_sub_cancel]
    rfl
  have hfits : Nat.ofDigitChars 10 (firstDecimals fraction) 0 < 2 ^ 256 := by
    have hlength : (firstDecimals fraction).length ≤ 6 := List.length_take_le _ _
    calc Nat.ofDigitChars 10 (firstDecimals fraction) 0
      _ < 10 ^ (firstDecimals fraction).length := Numeral.ofDigitChars_lt hdigits
      _ ≤ 10 ^ 6 := Nat.pow_le_pow_right (by decide) hlength
      _ ≤ 2 ^ 256 := by decide
  refine ⟨⟨_, hfits⟩, ?_, hnumber⟩
  rw [Numeral.word?_of_isDigit hdigits]
  exact Word.ofNat?_eq_some_iff.mpr rfl

theorem parse_of_spells (hspells : Spells (Text.trim text.toList) whole fraction) :
    parse text = (Word.ofNat? 256 ⌊value whole fraction⌋₊).map fun _ ↦
      .saturate 256 ⌊10 ^ 6 * value whole fraction⌋₊ := by
  obtain ⟨hwhole, hfraction⟩ := List.forall_mem_append.mp hspells.digits
  obtain ⟨decimals, hdecimals, hmillionths⟩ := exists_decimals hfraction
  have hsome : (whole.isEmpty && fraction.isEmpty) = false := by
    simpa [List.isEmpty_iff] using hspells.nonempty
  have hdigits : (whole ++ fraction).all isDigit = true := by
    rw [List.all_eq_true]
    exact fun c hc ↦ (isDigit_eq c).trans (hspells.digits c hc)
  simp only [parse, hspells.splitPoint_eq, hsome, hdigits, hdecimals, Bool.false_eq_true,
    Bool.not_true, if_false, Numeral.word?_of_isDigit hwhole, floor_value hfraction]
  cases hword : Word.ofNat? 256 (Nat.ofDigitChars 10 whole 0) with
  | none => rfl
  | some word =>
    have hmillion : (1000000 : Word 256).toNat = 10 ^ 6 := rfl
    rw [Option.map_some, Option.some.injEq]
    apply Word.ext
    rw [Word.toNat_satAdd, Word.toNat_satMul, hmillionths, Word.toNat_saturate, floor_millionths,
      Word.ofNat?_eq_some_iff.mp hword, hmillion]
    omega

theorem spells_of_parse {scalar : Word 256} (hparse : parse text = some scalar) :
    ∃ whole fraction, Spells (Text.trim text.toList) whole fraction := by
  have hpointed := splitPoint_pointed (Text.trim text.toList)
  refine ⟨_, _, ?_, ?_, hpointed⟩
  all_goals
    unfold parse at hparse
    simp only at hparse
  · intro c hc
    rw [← isDigit_eq]
    by_contra hdigit
    have hall : (!((splitPoint (Text.trim text.toList)).1 ++
        (splitPoint (Text.trim text.toList)).2).all isDigit) = true := by
      rw [Bool.not_eq_true', List.all_eq_false]
      exact ⟨c, hc, hdigit⟩
    rw [hall] at hparse
    simp at hparse
  · intro hempty
    rw [List.append_eq_nil_iff] at hempty
    rw [hempty.1, hempty.2] at hparse
    simp at hparse

/-- A text is read exactly if it denotes a number whose integer part fits a word, as the millionths
of the number, rounded down and cut off at the largest word. -/
theorem parse_eq_some_iff {scalar : Word 256} :
    parse text = some scalar ↔ ∃ x, Denotes text x ∧ ⌊x⌋₊ < 2 ^ 256 ∧
      scalar.toNat = min ⌊10 ^ 6 * x⌋₊ (2 ^ 256 - 1) := by
  constructor
  · intro hparse
    obtain ⟨whole, fraction, hspells⟩ := spells_of_parse hparse
    rw [parse_of_spells hspells, Option.map_eq_some_iff] at hparse
    obtain ⟨word, hword, rfl⟩ := hparse
    refine ⟨_, denotes_iff.mpr ⟨whole, fraction, hspells, rfl⟩, ?_, rfl⟩
    rw [← Word.ofNat?_eq_some_iff.mp hword]
    exact word.toNat_lt
  · rintro ⟨x, hdenotes, hfits, hscalar⟩
    obtain ⟨whole, fraction, hspells, rfl⟩ := denotes_iff.mp hdenotes
    have hword : Word.ofNat? 256 ⌊value whole fraction⌋₊ = some ⟨_, hfits⟩ :=
      Word.ofNat?_eq_some_iff.mpr rfl
    rw [parse_of_spells hspells, hword, Option.map_some, Option.some.injEq]
    exact Word.ext hscalar.symm

/-- The option for the scalar takes the numbers whose millionths fit 64 bits. -/
theorem scalar?_eq_some_iff {scalar : Word 64} :
    Configuration.scalar? text = some scalar ↔
      ∃ x, Denotes text x ∧ ⌊10 ^ 6 * x⌋₊ < 2 ^ 64 ∧ scalar.toNat = ⌊10 ^ 6 * x⌋₊ := by
  simp only [Configuration.scalar?, Option.bind_eq_some_iff, parse_eq_some_iff, Word.narrow?,
    Word.ofNat?_eq_some_iff]
  constructor
  · rintro ⟨word, ⟨x, hdenotes, -, hword⟩, hscalar⟩
    have hfits := scalar.toNat_lt
    exact ⟨x, hdenotes, by omega, by omega⟩
  · rintro ⟨x, hdenotes, hfits, hscalar⟩
    have hle : ⌊x⌋₊ ≤ ⌊10 ^ 6 * x⌋₊ := by
      obtain ⟨whole, fraction, -, rfl⟩ := denotes_iff.mp hdenotes
      have hnonneg := value_nonneg whole fraction
      exact Nat.floor_mono (by linarith)
    refine ⟨.saturate 256 ⌊10 ^ 6 * x⌋₊, ⟨x, hdenotes, by omega, rfl⟩, ?_⟩
    rw [Word.toNat_saturate, hscalar]
    omega

/-- Reading finds exactly the texts that denote numbers that fit, with their millionths; of two
texts whose numbers are in order, the first is read if the second is, as no greater a scalar; and
the option for the scalar takes exactly those whose millionths fit its 64 bits, with the same
millionths. -/
theorem reads_millionths (text : String) :
    (∀ scalar, parse text = some scalar ↔ ∃ x, Denotes text x ∧ ⌊x⌋₊ < 2 ^ 256 ∧
      scalar.toNat = min ⌊10 ^ 6 * x⌋₊ (2 ^ 256 - 1)) ∧
    (∀ greater x y most, Denotes text x → Denotes greater y → x ≤ y →
      parse greater = some most → ∃ scalar, parse text = some scalar ∧ scalar ≤ most) ∧
    ∀ scalar, Configuration.scalar? text = some scalar ↔
      ∃ x, Denotes text x ∧ ⌊10 ^ 6 * x⌋₊ < 2 ^ 64 ∧ scalar.toNat = ⌊10 ^ 6 * x⌋₊ := by
  refine ⟨fun scalar ↦ parse_eq_some_iff, ?_, fun scalar ↦ scalar?_eq_some_iff⟩
  intro greater x y most hx hy hle hmost
  obtain ⟨z, hz, hfits, htoNat⟩ := parse_eq_some_iff.mp hmost
  obtain rfl := hz.unique hy
  have hwhole : ⌊x⌋₊ ≤ ⌊z⌋₊ := Nat.floor_mono hle
  have hmillionths : ⌊10 ^ 6 * x⌋₊ ≤ ⌊10 ^ 6 * z⌋₊ := Nat.floor_mono (by linarith)
  refine ⟨.saturate 256 ⌊10 ^ 6 * x⌋₊, parse_eq_some_iff.mpr ⟨x, hx, by omega, rfl⟩, ?_⟩
  show min ⌊10 ^ 6 * x⌋₊ (2 ^ 256 - 1) ≤ most.toNat
  omega

/-- Seven decimals between blanks, after a point without digits in front of it. -/
theorem reads_millionths_truncated :
    Denotes " .6840009\n" (6840009 / 10000000) ∧ parse " .6840009\n" = some 684000 ∧
      Configuration.scalar? " .6840009\n" = some 684000 := by
  have hspells : Spells ['.', '6', '8', '4', '0', '0', '0', '9'] []
      ['6', '8', '4', '0', '0', '0', '9'] :=
    ⟨List.all_eq_true.mp rfl, by decide, Or.inl rfl⟩
  have hvalue : (6840009 / 10000000 : ℚ) = value [] ['6', '8', '4', '0', '0', '0', '9'] := by
    have hdigits : Nat.ofDigitChars 10 ['6', '8', '4', '0', '0', '0', '9'] 0 = 6840009 := rfl
    rw [value, hdigits]
    norm_num
  have hdenotes : Denotes " .6840009\n" (6840009 / 10000000) :=
    ⟨[' '], _, ['\n'], _, _, rfl, List.all_eq_true.mp rfl, hspells, hvalue⟩
  have hwhole : ⌊(6840009 / 10000000 : ℚ)⌋₊ = 0 := by norm_num [Nat.floor_eq_zero]
  have hmillionths : ⌊(10 ^ 6 * (6840009 / 10000000) : ℚ)⌋₊ = 684000 := by
    rw [hvalue, floor_millionths]
    rfl
  obtain ⟨hparse, -, hoption⟩ := reads_millionths " .6840009\n"
  refine ⟨hdenotes, (hparse _).mpr ⟨_, hdenotes, ?_, ?_⟩, (hoption _).mpr ⟨_, hdenotes, ?_, ?_⟩⟩
  · rw [hwhole]
    decide
  · rw [hmillionths]
    rfl
  · rw [hmillionths]
    decide
  · rw [hmillionths]
    rfl

end FeeScalar

end RollupLedger
