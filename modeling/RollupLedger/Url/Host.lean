import RollupLedger.Url.Domain.Basic

/-!
The host of a web address: a domain name, a network address of version 4 or 6, or, where the scheme
is not special, any name.
-/

set_option autoImplicit false
set_option relaxedAutoImplicit false

namespace RollupLedger.Url

inductive Host where
  | name (text : String)
  | v4 (address : Nat)
  | v6 (pieces : List Nat)
deriving DecidableEq, Repr

namespace Host

/-! ### Version 4 -/

/-- The base of a part and its digits: `0x` makes it hexadecimal, another leading zero octal. -/
def v4Digits : List Char → Nat × List Char
  | '0' :: 'x' :: digits => (16, digits)
  | '0' :: 'X' :: digits => (16, digits)
  | '0' :: c :: digits => (8, c :: digits)
  | digits => (10, digits)

/-- The number that a part of an address denotes; no digits after a mark of the base denote zero. -/
def v4Number? (part : List Char) : Option Nat :=
  if part.isEmpty then none
  else
    let (base, digits) := v4Digits part
    digits.foldlM (fun n c => ((hexValue? c).filter (· < base)).map (n * base + ·)) 0

/-- The parts of a domain name; a point at the end does not count. -/
def domainParts (domain : List Char) : List (List Char) :=
  let parts := splitAt '.' domain
  if 1 < parts.length ∧ parts.getLast? = some [] then parts.dropLast else parts

/-- Whether the last part is a number, so that the whole must be an address. -/
def endsInNumber (domain : List Char) : Bool :=
  match (domainParts domain).getLast? with
  | some last => (!last.isEmpty && last.all Char.isDigit) || (v4Number? last).isSome
  | none => false

/-- The address with these numbers, the last of which fills all bytes that are left. -/
def v4OfNumbers? (numbers : List Nat) : Option Nat :=
  match numbers.reverse with
  | [] => none
  | last :: others =>
    if 3 < others.length ∨ Nat.pow 256 (4 - others.length) ≤ last ∨ others.any (255 < ·) then none
    else some (others.reverse.zipIdx.foldl (fun n (byte, i) => n + byte * Nat.pow 256 (3 - i)) last)

def readV4 (domain : List Char) : Option Host :=
  ((domainParts domain).mapM v4Number?).bind fun numbers => (v4OfNumbers? numbers).map v4

/-! ### Version 6 -/

def piece? (part : List Char) : Option Nat :=
  if part.isEmpty ∨ 4 < part.length then none
  else part.foldlM (fun n c => (hexValue? c).map (n * 16 + ·)) 0

/-- A decimal byte without leading zeros. -/
def byte? (part : List Char) : Option Nat :=
  if part.isEmpty ∨ 3 < part.length ∨ !part.all Char.isDigit then none
  else if part.head? = some '0' ∧ part.length ≠ 1 then none
  else (part.foldlM (fun n c => (hexValue? c).map (n * 10 + ·)) 0).filter (· < 256)

/-- The two pieces of an address of version 4 at the end of one of version 6. -/
def dotted? (part : List Char) : Option (List Nat) :=
  match (splitAt '.' part).map byte? with
  | [some a, some b, some c, some d] => some [a * 256 + b, c * 256 + d]
  | _ => none

/-- Pieces between colons, the last of which may be an address of version 4. -/
def pieces? (mayBeDotted : Bool) : List (List Char) → Option (List Nat)
  | [] => some []
  | [last] =>
    match piece? last with
    | some n => some [n]
    | none => if mayBeDotted then dotted? last else none
  | part :: rest =>
    (piece? part).bind fun n => (pieces? mayBeDotted rest).map (n :: ·)

/-- The pieces of a side of a double colon, which may be empty. -/
def side? (mayBeDotted : Bool) (cs : List Char) : Option (List Nat) :=
  if cs.isEmpty then some [] else pieces? mayBeDotted (splitAt ':' cs)

/-- The texts before and after the first double colon. -/
def splitDouble : List Char → Option (List Char × List Char)
  | ':' :: ':' :: rest => some ([], rest)
  | c :: rest => (splitDouble rest).map fun (before, after) => (c :: before, after)
  | [] => none

def readV6 (cs : List Char) : Option Host :=
  match splitDouble cs with
  | none => ((side? true cs).filter (·.length = 8)).map v6
  | some (before, after) =>
    match side? false before, side? true after with
    | some left, some right =>
      if left.length + right.length ≤ 7 then
        some (v6 (left ++ List.replicate (8 - left.length - right.length) 0 ++ right))
      else none
    | _, _ => none

/-- How many zeros a list begins with. -/
def zeros (pieces : List Nat) : Nat := (pieces.takeWhile (· = 0)).length

/-- Where the first of the longest runs of zeros begins, and how long it is. -/
def longestZeros (pieces : List Nat) : Nat × Nat :=
  (List.range pieces.length).foldl
    (fun best i =>
      let length := zeros (pieces.drop i)
      if best.2 < length then (i, length) else best) (0, 0)

def joinPieces (pieces : List Nat) : String :=
  ":".intercalate (pieces.map fun n => String.ofList (Nat.toDigits 16 n))

/-- Pieces with the longest run of at least two zeros left out. -/
def writeV6 (pieces : List Nat) : String :=
  let (start, length) := longestZeros pieces
  if length < 2 then joinPieces pieces
  else joinPieces (pieces.take start) ++ "::" ++ joinPieces (pieces.drop (start + length))

/-! ### Any host -/

def write : Host → String
  | name text => text
  | v4 n => ".".intercalate ([16777216, 65536, 256, 1].map fun unit => toString (n / unit % 256))
  | v6 pieces => "[" ++ writeV6 pieces ++ "]"

/-- Characters that no host may have. -/
def isForbidden (c : Char) : Bool :=
  ['\x00', '\t', '\n', '\r', ' ', '#', '/', ':', '<', '>', '?', '@', '[', '\\', ']', '^',
    '|'].contains c

/-- Characters that no domain name may have. -/
def isForbiddenInDomain (c : Char) : Bool :=
  isForbidden c || c.toNat < 0x20 || c = '%' || c = '\x7f'

/-- A domain name in ASCII, given with escapes. -/
def domain? (cs : List Char) : Option (List Char) :=
  ((String.fromUTF8? ⟨(unescape cs).toArray⟩).bind fun text => Domain.ascii? text.toList).filter
    fun domain => !domain.isEmpty && !domain.any isForbiddenInDomain

/-- The host between brackets. -/
def bracketed? (cs : List Char) : Option (List Char) :=
  match cs with
  | '[' :: rest => if rest.getLast? = some ']' then some rest.dropLast else none
  | _ => none

/-- The host of an address whose scheme is special. -/
def readSpecial (cs : List Char) : Option Host :=
  if cs.head? = some '[' then (bracketed? cs).bind readV6
  else
    (domain? cs).bind fun domain =>
      if endsInNumber domain then readV4 domain else some (name (String.ofList domain))

/-- The host of an address of another scheme. -/
def readPlain (cs : List Char) : Option Host :=
  if cs.head? = some '[' then (bracketed? cs).bind readV6
  else if cs.any isForbidden then none
  else some (name (String.ofList (escape .loose cs)))

end Host

end RollupLedger.Url
