import RollupLedger.Word

/-!
Numerals in bases up to sixteen. A reader takes digits of either case and skips underscores; no
digit at all denotes zero. `Numeral.read?` is the reader on a list of characters, and
`Numeral.quantity?` the reader of a whole text, whose first two characters may name the base.
-/

set_option autoImplicit false
set_option relaxedAutoImplicit false

namespace RollupLedger.Numeral

/-- The value of an ASCII digit or letter as a digit, whatever the base. -/
def digitValue? (c : Char) : Option Nat :=
  if '0' ≤ c ∧ c ≤ '9' then some (c.toNat - '0'.toNat)
  else if 'a' ≤ c ∧ c ≤ 'z' then some (c.toNat - 'a'.toNat + 10)
  else if 'A' ≤ c ∧ c ≤ 'Z' then some (c.toNat - 'A'.toNat + 10)
  else none

def digit? (base : Nat) (c : Char) : Option Nat :=
  (digitValue? c).filter (· < base)

/-- One more character of a numeral whose earlier characters denote `n`. -/
def push? (base n : Nat) (c : Char) : Option Nat :=
  if c = '_' then some n else (digit? base c).map (n * base + ·)

def read? (base : Nat) (cs : List Char) : Option Nat := cs.foldlM (push? base) 0

def word? (bits base : Nat) (cs : List Char) : Option (Word bits) :=
  (read? base cs).bind (Word.ofNat? bits)

/-- The base that the first two characters name, and the characters that follow them. -/
def splitBase : List Char → Nat × List Char
  | '0' :: 'x' :: cs => (16, cs)
  | '0' :: 'X' :: cs => (16, cs)
  | '0' :: 'o' :: cs => (8, cs)
  | '0' :: 'O' :: cs => (8, cs)
  | '0' :: 'b' :: cs => (2, cs)
  | '0' :: 'B' :: cs => (2, cs)
  | cs => (10, cs)

def quantity? (bits : Nat) (text : String) : Option (Word bits) :=
  let (base, cs) := splitBase text.toList
  word? bits base cs

/-- The minimal lower-case hexadecimal numeral after `0x`; zero is `0x0`. -/
def hex (n : Nat) : String := "0x" ++ String.ofList (Nat.toDigits 16 n)

/-- A whole text of ASCII digits after an optional plus sign, as a word. -/
def plain? (bits : Nat) (text : String) : Option (Word bits) :=
  let digits := match text.toList with
    | '+' :: cs => cs
    | cs => cs
  if digits.isEmpty ∨ ¬ digits.all (·.isDigit) then none else word? bits 10 digits

end RollupLedger.Numeral
