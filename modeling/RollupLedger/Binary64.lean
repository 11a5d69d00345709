/-!
Finite floating-point numbers of 64 bits, as a sign, a significand below 2 ^ 53 and a power of two.
Every operation rounds the exact result to the nearest such number, a tie to the even significand,
and refuses a result that would be infinite. `Binary64.shortest` is the shortest decimal that reads
back, and of those the nearest; `shortText` writes it, with an exponent if it is very large or very
small.
-/

set_option autoImplicit false
set_option relaxedAutoImplicit false

namespace RollupLedger

/-- The number `significand * 2 ^ exponent`, negated if `negative`. A significand below 2 ^ 52 comes
with the least exponent, -1074. -/
structure Binary64 where
  negative : Bool
  significand : Nat
  exponent : Int
deriving DecidableEq, Repr

namespace Binary64

/-- The quotient rounded to the nearest integer, a tie to the even one. -/
def roundDiv (num den : Nat) : Nat :=
  let q := num / den
  let r := num % den
  if 2 * r < den ∨ (2 * r = den ∧ q % 2 = 0) then q else q + 1

/-- `num / den` times `base ^ (-e)`, again as a quotient. -/
def scaleDown (base num den : Nat) (e : Int) : Nat × Nat :=
  if 0 ≤ e then (num, den * Nat.pow base e.toNat) else (num * Nat.pow base (-e).toNat, den)

def zero (negative : Bool) : Binary64 := ⟨negative, 0, -1074⟩

/-- The nearest number to `num / den`, unless it would be infinite. -/
def ofRatio? (negative : Bool) (num den : Nat) : Option Binary64 :=
  if num = 0 then some (zero negative)
  else
    let guess : Int := (num.log2 : Int) - den.log2 - 53
    let (n, d) := scaleDown 2 num den guess
    let exponent := max (if n / d < Nat.pow 2 53 then guess else guess + 1) (-1074)
    let (n, d) := scaleDown 2 num den exponent
    let rounded := roundDiv n d
    let (significand, exponent) :=
      if rounded = Nat.pow 2 53 then (Nat.pow 2 52, exponent + 1) else (rounded, exponent)
    if 971 < exponent then none else some ⟨negative, significand, exponent⟩

/-- The magnitude as a quotient. -/
def ratio (x : Binary64) : Nat × Nat := scaleDown 2 x.significand 1 (-x.exponent)

def negate (x : Binary64) : Binary64 := { x with negative := !x.negative }

def mulRatio? (x : Binary64) (num den : Nat) : Option Binary64 :=
  ofRatio? x.negative (x.ratio.1 * num) (x.ratio.2 * den)

/-! ### Decimal text -/

/-- The exponent of the leading decimal digit of a positive quotient. -/
def leadingExponent (num den : Nat) : Int :=
  if den ≤ num then ((Nat.toDigits 10 (num / den)).length : Int) - 1
  else
    let places := (Nat.toDigits 10 ((den + num - 1) / num - 1)).length
    Int.neg places

/-- Whether `digits * 10 ^ e` rounds to `x`: it lies between the midpoints to the neighbours of `x`,
which themselves belong to `x` if its significand is even. -/
def readsBack (x : Binary64) (digits : Nat) (e : Int) : Bool :=
  let below := if x.significand = Nat.pow 2 52 ∧ -1074 < x.exponent then 1 else 2
  let (unit, unitDen) := scaleDown 2 1 4 (-x.exponent)
  let (n, d) := scaleDown 10 digits 1 (-e)
  let point := n * unitDen
  let low := (4 * x.significand - below) * unit * d
  let high := (4 * x.significand + 2) * unit * d
  if x.significand % 2 = 0 then low ≤ point && point ≤ high else low < point && point < high

/-- Searches the grids of 1, 2, … digits for a decimal that reads back; the arguments are how many
grids are left and the exponent of the next one. -/
def searchGrids (x : Binary64) : (left : Nat) → Int → Nat × Int
  | 0, e => let (n, d) := x.ratio; let (n, d) := scaleDown 10 n d e; (roundDiv n d, e)
  | left + 1, e =>
    let (n, d) := x.ratio
    let (n, d) := scaleDown 10 n d e
    let down := n / d
    match x.readsBack down e, x.readsBack (down + 1) e with
    | true, true => (roundDiv n d, e)
    | true, false => (down, e)
    | false, true => (down + 1, e)
    | false, false => searchGrids x left (e - 1)

/-- Moves the zeros at the end of the digits into the exponent. -/
def dropZeros : (fuel : Nat) → Nat × Int → Nat × Int
  | 0, de => de
  | fuel + 1, (digits, e) =>
    if digits ≠ 0 ∧ digits % 10 = 0 then dropZeros fuel (digits / 10, e + 1) else (digits, e)

/-- Digits and power of ten of the shortest decimal that reads back as the magnitude. -/
def shortest (x : Binary64) : Nat × Int :=
  if x.significand = 0 then (0, 0)
  else dropZeros 20 (x.searchGrids 16 (leadingExponent x.ratio.1 x.ratio.2))

def sign (x : Binary64) : List Char := if x.negative then ['-'] else []

/-- Digits with a point before the last `-e` of them, or followed by `e` zeros. -/
def positional (digits : List Char) (e : Int) : List Char :=
  if 0 ≤ e then digits ++ List.replicate e.toNat '0' ++ ".0".toList
  else
    let places := (-e).toNat
    if places < digits.length then
      digits.take (digits.length - places) ++ '.' :: digits.drop (digits.length - places)
    else "0.".toList ++ List.replicate (places - digits.length) '0' ++ digits

/-- Digits with a point after the first of them, if more follow, and the exponent of that first one
with its sign. -/
def scientific (digits : List Char) (exponent : Int) : List Char :=
  let fraction := match digits.drop 1 with
    | [] => []
    | rest => '.' :: rest
  let sign := if exponent < 0 then '-' else '+'
  digits.take 1 ++ fraction ++ 'e' :: sign :: Nat.toDigits 10 exponent.natAbs

/-- Positional from 1e-5 up to below 1e16, and with an exponent elsewhere. -/
def shortText (x : Binary64) : String :=
  let (number, e) := x.shortest
  let digits := Nat.toDigits 10 number
  let leading : Int := digits.length + e - 1
  String.ofList <| x.sign ++
    if number = 0 ∨ (-5 ≤ leading ∧ leading < 16) then positional digits e
    else scientific digits leading

end Binary64

end RollupLedger
