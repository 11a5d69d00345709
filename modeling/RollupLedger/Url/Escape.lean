import RollupLedger.Bytes.Basic

/-!
Characters that may not stand as themselves in a part of a web address, and their escaped form: a
percent sign and two upper-case hexadecimal digits for each byte of the character.
-/

set_option autoImplicit false
set_option relaxedAutoImplicit false

namespace RollupLedger.Url

/-- The printable ASCII characters that are escaped in a part; controls and characters beyond ASCII
are escaped in every part. -/
structure Part where
  escaped : List Char

namespace Part

def fragment : Part := ⟨[' ', '"', '<', '>', '\x60']⟩

def path : Part := ⟨fragment.escaped ++ ['#', '?', '\x7b', '\x7d']⟩

def user : Part := ⟨path.escaped ++ ['/', ':', ';', '=', '@', '[', '\\', ']', '^', '|']⟩

def query : Part := ⟨[' ', '"', '#', '<', '>']⟩

/-- The query of an address whose scheme is special. -/
def specialQuery : Part := ⟨'\'' :: query.escaped⟩

/-- A part in which every printable ASCII character stands as itself. -/
def loose : Part := ⟨[]⟩

def escapes (part : Part) (c : Char) : Bool :=
  c.toNat < 0x20 || 0x7f ≤ c.toNat || part.escaped.contains c

end Part

def utf8Bytes (cs : List Char) : Bytes := (String.ofList cs).toUTF8.toList

def escapeByte (b : UInt8) : List Char :=
  ['%', (Nat.digitChar (b.toNat / 16)).toUpper, (Nat.digitChar (b.toNat % 16)).toUpper]

/-- A text with the characters escaped that may not stand in a part. -/
def escape (part : Part) (cs : List Char) : List Char :=
  cs.flatMap fun c => if part.escapes c then (utf8Bytes [c]).flatMap escapeByte else [c]

/-- The value of an ASCII digit of a base up to sixteen. -/
def hexValue? (c : Char) : Option Nat :=
  if c.isDigit then some (c.toNat - '0'.toNat)
  else if 'a' ≤ c ∧ c ≤ 'f' then some (c.toNat - 'a'.toNat + 10)
  else if 'A' ≤ c ∧ c ≤ 'F' then some (c.toNat - 'A'.toNat + 10)
  else none

/-- The bytes of a text in which escapes stand for bytes; a percent sign that begins no escape
stands for itself. -/
def unescape : List Char → Bytes
  | [] => []
  | '%' :: a :: b :: rest =>
    match hexValue? a, hexValue? b with
    | some high, some low => UInt8.ofNat (high * 16 + low) :: unescape rest
    | _, _ => 0x25 :: unescape (a :: b :: rest)
  | c :: rest => utf8Bytes [c] ++ unescape rest

end RollupLedger.Url
