import RollupLedger.Text.Unseen

/-!
Texts and characters as messages quote them: between quotation marks, with a backslash before the
mark itself and before a backslash, short names for four controls, and the number of every other
character that is not seen as itself.
-/

set_option autoImplicit false
set_option relaxedAutoImplicit false

namespace RollupLedger.Text

/-- One character as it stands between two marks `mark`. -/
def quotedChar (mark c : Char) : List Char :=
  if c = '\x00' then ['\\', '0']
  else if c = '\t' then ['\\', 't']
  else if c = '\r' then ['\\', 'r']
  else if c = '\n' then ['\\', 'n']
  else if c = mark ∨ c = '\\' then ['\\', c]
  else if isUnseen c then "\\u\x7b".toList ++ Nat.toDigits 16 c.toNat ++ ['\x7d']
  else [c]

/-- The text between double quotation marks. -/
def quoted (text : String) : String :=
  String.ofList ('"' :: text.toList.flatMap (quotedChar '"') ++ ['"'])

/-- The character between single quotation marks. -/
def quotedOne (c : Char) : String := String.ofList ('\'' :: quotedChar '\'' c ++ ['\''])

end RollupLedger.Text
