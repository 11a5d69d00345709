/-!
Texts between separators, and texts in lower case.
-/

set_option autoImplicit false
set_option relaxedAutoImplicit false

namespace RollupLedger.Url

/-- The parts of a text between the occurrences of a character. -/
def splitAt (separator : Char) : List Char → List (List Char)
  | [] => [[]]
  | c :: rest =>
    if c = separator then [] :: splitAt separator rest
    else
      match splitAt separator rest with
      | [] => [[c]]
      | part :: parts => (c :: part) :: parts

def lowered (cs : List Char) : List Char := cs.map Char.toLower

end RollupLedger.Url
