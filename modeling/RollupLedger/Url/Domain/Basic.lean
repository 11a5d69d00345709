import RollupLedger.Url.Domain.Composed
import RollupLedger.Url.Domain.Joining
import RollupLedger.Url.Domain.Meaning
import RollupLedger.Url.Punycode

/-!
Domain names. A name is read by replacing every character by what it stands for and composing the
outcome; its labels are what stands between the points then. A label beyond ASCII may also be given
in the ASCII form that `Punycode.encode` writes, and all are written in that form.
-/

set_option autoImplicit false
set_option relaxedAutoImplicit false

namespace RollupLedger.Url.Domain

/-- How many characters a label beyond ASCII may have, and how many its code. -/
def longestLabel : Nat := 1000

def longestCode : Nat := 2000

/-- The label with this code, which must not be ASCII and must be in the form in which it would be
read without the code. -/
def ofCode? (code : List Char) : Option (List Char) :=
  if longestCode < code.length then none
  else (Punycode.decode? code).filter fun label =>
    !Punycode.isAscii label && label.all isPlain && composed label == label

def readLabel? : List Char → Option (List Char)
  | 'x' :: 'n' :: '-' :: '-' :: code => ofCode? code
  | label => some label

/-- Whether a label may stand in a name, apart from the direction of its characters. -/
def isWellFormed (label : List Char) : Bool :=
  !label.head?.any isMark && joinersFit [] label &&
    (Punycode.isAscii label || label.length ≤ longestLabel)

def labels? (name : List Char) : Option (List (List Char)) :=
  (name.mapM meaning?).bind fun meanings =>
    ((splitAt '.' (composed meanings.flatten)).mapM readLabel?).filter fun labels =>
      labels.all isWellFormed && keepDirections labels

/-- A name in ASCII. -/
def ascii? (name : List Char) : Option (List Char) :=
  (labels? name).map fun labels => ['.'].intercalate (labels.map Punycode.encode)

end RollupLedger.Url.Domain
