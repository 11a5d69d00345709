import RollupLedger.Url.Domain.Composite
import RollupLedger.Url.Domain.Mark

/-!
The composed form of a text: of all sequences of characters that are the same text, the one with the
marks in the order of their classes and with composites wherever there are any.
-/

set_option autoImplicit false
set_option relaxedAutoImplicit false

namespace RollupLedger.Url.Domain

/-- The parts of a character, of their parts and so on, down to the given depth. -/
def decomposed : (depth : Nat) → Char → List Char
  | 0, c => [c]
  | depth + 1, c =>
    match parts? c with
    | some (first, second) => decomposed depth first ++ [second]
    | none => [c]

/-- How deep composites are nested. -/
def compositeDepth : Nat := 2

/-- Puts a character before others, a mark behind those of them that have a lower class. -/
def insertMark (c : Char) : List Char → List Char
  | [] => [c]
  | d :: rest =>
    if 0 < markClass d ∧ markClass d < markClass c then d :: insertMark c rest else c :: d :: rest

/-- The marks after each character in the order of their classes; of two with the same class the
first stays first. -/
def ordered : List Char → List Char
  | [] => []
  | c :: rest => if markClass c = 0 then c :: ordered rest else insertMark c (ordered rest)

/-- Whether a character that could join the base is kept from it by those passed in between, of
which the last comes first. -/
def isBlocked (passed : List Char) (c : Char) : Bool :=
  match passed with
  | [] => false
  | last :: _ => markClass c ≤ markClass last

/-- Joins characters to the base before them as far as there are composites. -/
def joinTo (base : Char) (passed : List Char) : List Char → List Char
  | [] => base :: passed.reverse
  | c :: rest =>
    match if isBlocked passed c then none else composite? base c with
    | some composite => joinTo composite passed rest
    | none =>
      if markClass c = 0 then base :: passed.reverse ++ joinTo c [] rest
      else joinTo base (c :: passed) rest

/-- The composed form of a text. -/
def composed (cs : List Char) : List Char :=
  let parts := ordered (cs.flatMap (decomposed compositeDepth))
  parts.takeWhile (markClass · ≠ 0) ++
    match parts.dropWhile (markClass · ≠ 0) with
    | [] => []
    | base :: rest => joinTo base [] rest

end RollupLedger.Url.Domain
