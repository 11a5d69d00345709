/-!
Labels of a domain name in ASCII: the ASCII characters of the label come first, and then the places
and values of the others as numbers in base 36 of varying weight. `encode` writes a label in this
form, and `decode?` reads what `encode` puts behind the mark `xn--`.
-/

set_option autoImplicit false
set_option relaxedAutoImplicit false

namespace RollupLedger.Url.Punycode

def digit (d : Nat) : Char := if d < 26 then Char.ofNat (0x61 + d) else Char.ofNat (0x30 + d - 26)

/-- The value below which a digit at a place is the last one of its number. -/
def threshold (place bias : Nat) : Nat := max 1 (min 26 (place - bias))

/-- Divides until the number is small, and counts the places passed. -/
def scale (delta place : Nat) : Nat × Nat :=
  if 455 < delta then scale (delta / 35) (place + 36) else (delta, place)
termination_by delta
decreasing_by omega

/-- The bias for the next number. -/
def adapt (delta points : Nat) (isFirst : Bool) : Nat :=
  let delta := if isFirst then delta / 700 else delta / 2
  let (delta, place) := scale (delta + delta / points) 0
  place + 36 * delta / (delta + 38)

/-- A number by its digits, the least significant first. -/
def number (bias place n : Nat) : List Char :=
  let t := threshold place bias
  if _ : n < t then [digit n]
  else digit (t + (n - t) % (36 - t)) :: number bias (place + 36) ((n - t) / (36 - t))
termination_by n
decreasing_by
  have : 1 ≤ threshold place bias := by unfold threshold; omega
  exact Nat.lt_of_le_of_lt (Nat.div_le_self _ _) (by omega)

structure Progress where
  output : List Char
  delta : Nat
  bias : Nat
  handled : Nat

/-- Looks at one character of the label while those of value `point` are being placed. -/
def place (basic point : Nat) (p : Progress) (c : Char) : Progress :=
  if c.toNat < point then { p with delta := p.delta + 1 }
  else if c.toNat = point then
    { output := p.output ++ number p.bias 36 p.delta
      delta := 0
      bias := adapt p.delta (p.handled + 1) (p.handled == basic)
      handled := p.handled + 1 }
  else p

/-- Places characters value by value; `last` is the value dealt with before. -/
def placeAll (label : List Char) (basic : Nat) : (last : Nat) → List Nat → Progress → Progress
  | _, [], p => p
  | last, point :: rest, p =>
    let p := { p with delta := p.delta + (point - last) * (p.handled + 1) }
    let p := label.foldl (place basic point) p
    placeAll label basic (point + 1) rest { p with delta := p.delta + 1 }

def isAscii (label : List Char) : Bool := label.all fun c => c.toNat < 128

/-- A label as it is sent: itself if it is ASCII. -/
def encode (label : List Char) : List Char :=
  if isAscii label then label
  else
    let basic := label.filter fun c => c.toNat < 128
    let points := ((label.map Char.toNat).filter (128 ≤ ·)).eraseDups.mergeSort (· ≤ ·)
    let start := if basic.isEmpty then [] else basic ++ ['-']
    let p := placeAll label basic.length 128 points ⟨start, 0, 72, basic.length⟩
    "xn--".toList ++ p.output

/-! ### Reading -/

def digitValue? (c : Char) : Option Nat :=
  if 'a' ≤ c ∧ c ≤ 'z' then some (c.toNat - 0x61)
  else if c.isDigit then some (c.toNat - 0x30 + 26)
  else none

/-- What has been read: the label so far, value and place of the character put into it last, and the
digits of the next number up to here with the weight that the next digit has. -/
structure Draft where
  label : List Char
  point : Nat
  index : Nat
  bias : Nat
  number : Nat
  weight : Nat
  place : Nat

namespace Draft

/-- Before the digits, with the ASCII characters alone. -/
def start (basic : List Char) : Draft := ⟨basic, 128, 0, 72, 0, 1, 36⟩

/-- Puts in the character that the number tells. -/
def insert? (d : Draft) (number : Nat) : Option Draft :=
  let size := d.label.length + 1
  let total := d.index + number
  let point := d.point + total / size
  if point.isValidChar then
    some
      { label := d.label.insertIdx (total % size) (Char.ofNat point)
        point := point
        index := total % size + 1
        bias := adapt number size (d.index == 0)
        number := 0
        weight := 1
        place := 36 }
  else none

/-- Reads a digit; one below the threshold ends its number. -/
def read? (d : Draft) (c : Char) : Option Draft :=
  (digitValue? c).bind fun digit =>
    let number := d.number + digit * d.weight
    let t := threshold d.place d.bias
    if digit < t then d.insert? number
    else some { d with number := number, weight := d.weight * (36 - t), place := d.place + 36 }

end Draft

/-- The ASCII characters before the last hyphen, and the digits after it. A hyphen at the very
beginning separates nothing. -/
def splitCode (code : List Char) : List Char × List Char :=
  match code.reverse.dropWhile (· ≠ '-') with
  | _ :: c :: before => ((c :: before).reverse, (code.reverse.takeWhile (· ≠ '-')).reverse)
  | _ => ([], code)

/-- The label with this code, if every number in it is complete. -/
def decode? (code : List Char) : Option (List Char) :=
  let (basic, digits) := splitCode code
  if isAscii basic then
    ((digits.foldlM Draft.read? (Draft.start basic)).filter (·.place == 36)).map Draft.label
  else none

end RollupLedger.Url.Punycode
