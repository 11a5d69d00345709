import RollupLedger.Json.Basic
import RollupLedger.Numeral

/-!
Reading JSON text. The reader works on the characters that are left; a refusal records how many
bytes were left, from which `SyntaxError.message` finds line and column. At most 127 arrays and
objects may be open at once.
-/

set_option autoImplicit false
set_option relaxedAutoImplicit false

namespace RollupLedger.Json

inductive SyntaxFault where
  | endInArray
  | endInObject
  | endInString
  | endInValue
  | expectedColon
  | expectedItemOrEnd
  | expectedMemberOrEnd
  | expectedIdent
  | expectedValue
  | invalidEscape
  | invalidNumber
  | numberOutOfRange
  | controlCharacter
  | keyNotString
  | loneSurrogate
  | trailingComma
  | trailingCharacters
  | endOfEscape
  | tooDeep
deriving DecidableEq, Repr

namespace SyntaxFault

def message : SyntaxFault → String
  | endInArray => "EOF while parsing a list"
  | endInObject => "EOF while parsing an object"
  | endInString => "EOF while parsing a string"
  | endInValue => "EOF while parsing a value"
  | expectedColon => "expected `:`"
  | expectedItemOrEnd => "expected `,` or `]`"
  | expectedMemberOrEnd => "expected `,` or `\x7d`"
  | expectedIdent => "expected ident"
  | expectedValue => "expected value"
  | invalidEscape => "invalid escape"
  | invalidNumber => "invalid number"
  | numberOutOfRange => "number out of range"
  | controlCharacter => "control character (\\u0000-\\u001F) found while parsing a string"
  | keyNotString => "key must be a string"
  | loneSurrogate => "lone leading surrogate in hex escape"
  | trailingComma => "trailing comma"
  | trailingCharacters => "trailing characters"
  | endOfEscape => "unexpected end of hex escape"
  | tooDeep => "recursion limit exceeded"

end SyntaxFault

/-- A fault and the number of bytes of the text that follow its place. -/
structure Refusal where
  fault : SyntaxFault
  bytesLeft : Nat
deriving DecidableEq, Repr

/-- What a reader found, and the characters after it. -/
abbrev Reading (α : Type) := Except Refusal (α × List Char)

def byteCount (cs : List Char) : Nat := cs.foldl (fun n c => n + c.utf8Size) 0

/-- A refusal at the end of what was read so far. -/
def refuse {α : Type} (fault : SyntaxFault) (rest : List Char) : Except Refusal α :=
  .error ⟨fault, byteCount rest⟩

/-- A refusal one byte further, at most at the end of the text: the place of a byte that was seen
but not taken. -/
def refuseNext {α : Type} (fault : SyntaxFault) (rest : List Char) : Except Refusal α :=
  .error ⟨fault, byteCount rest - 1⟩

def isSpace (c : Char) : Bool := c = ' ' || c = '\n' || c = '\t' || c = '\r'

def skipSpace (cs : List Char) : List Char := cs.dropWhile isSpace

def isDigit (c : Char) : Bool := '0' ≤ c && c ≤ '9'

def digitOf (c : Char) : Nat := c.toNat - '0'.toNat

/-! ### Numbers -/

/-- The largest significand that digits are added to. -/
def maxSignificand : Nat := UInt64.size - 1

/-- The decimal `significand * 10 ^ e`, in floating-point steps of at most 308 powers of ten.
`fuel` bounds the number of steps. -/
def decimalFloat? : (fuel : Nat) → Binary64 → Int → Option Binary64
  | 0, x, _ => some x
  | fuel + 1, x, e =>
    if e.natAbs ≤ 308 then
      match Binary64.ofRatio? false (Nat.pow 10 e.natAbs) 1 with
      | none => none
      | some power =>
        let (n, d) := power.ratio
        if 0 ≤ e then x.mulRatio? n d else x.mulRatio? d n
    else if x.significand = 0 then some x
    else if 0 ≤ e then none
    else
      match Binary64.ofRatio? false (Nat.pow 10 308) 1 with
      | none => none
      | some power =>
        let (n, d) := power.ratio
        match x.mulRatio? d n with
        | none => none
        | some x => decimalFloat? fuel x (e + 308)

def floatOfParts (negative : Bool) (significand : Nat) (e : Int) (rest : List Char) :
    Reading Json :=
  match (Binary64.ofRatio? false significand 1).bind fun x => decimalFloat? 8 x e with
  | some x => .ok (float { x with negative := negative }, rest)
  | none => refuse .numberOutOfRange rest

/-- Reads the digits of an exponent; `none` when they pass 2 ^ 31 - 1, with the characters from the
digit on that would. -/
def readExponentDigits (n : Nat) : List Char → Option Nat × List Char
  | c :: rest =>
    if isDigit c then
      if 2147483647 < n * 10 + digitOf c then (none, rest)
      else readExponentDigits (n * 10 + digitOf c) rest
    else (some n, c :: rest)
  | [] => (some n, [])

/-- What follows the letter of an exponent. -/
def readExponent (negative : Bool) (significand : Nat) (start : Int) (cs : List Char) :
    Reading Json :=
  let (up, cs) := match cs with
    | '+' :: rest => (true, rest)
    | '-' :: rest => (false, rest)
    | _ => (true, cs)
  match cs with
  | [] => refuse .endInValue []
  | c :: rest =>
    if isDigit c then
      match readExponentDigits (digitOf c) rest with
      | (some n, rest) =>
        floatOfParts negative significand (if up then start + n else start - n) rest
      | (none, rest) =>
        if significand ≠ 0 ∧ up then refuse .numberOutOfRange rest
        else .ok (float (Binary64.zero negative), rest.dropWhile isDigit)
    else .error ⟨.invalidNumber, byteCount cs - 1⟩

/-- Adds digits to a significand while it stays a word of 64 bits, and counts them. -/
def addDigits (significand count : Nat) : List Char → Nat × Nat × List Char
  | c :: rest =>
    if isDigit c ∧ significand * 10 + digitOf c ≤ maxSignificand then
      addDigits (significand * 10 + digitOf c) (count + 1) rest
    else (significand, count, c :: rest)
  | [] => (significand, count, [])

/-- An exponent, if one follows, or the end of the number. -/
def readScale (negative : Bool) (significand : Nat) (e : Int) (cs : List Char) : Reading Json :=
  match cs with
  | 'e' :: rest => readExponent negative significand e rest
  | 'E' :: rest => readExponent negative significand e rest
  | _ => floatOfParts negative significand e cs

/-- What follows the point of a decimal. Digits that no longer fit are left out. -/
def readFraction (negative : Bool) (significand : Nat) (start : Int) (cs : List Char) :
    Reading Json :=
  let (significand, count, rest) := addDigits significand 0 cs
  match rest with
  | c :: _ =>
    if isDigit c then
      readScale negative significand (start - count) (rest.dropWhile isDigit)
    else if count = 0 then refuseNext .invalidNumber rest
    else readScale negative significand (start - count) rest
  | [] =>
    if count = 0 then refuse .endInValue [] else readScale negative significand (start - count) []

/-- The whole number that the digits so far denote. -/
def wholeNumber (negative : Bool) (significand : Nat) (rest : List Char) : Reading Json :=
  if ¬ negative then .ok (int significand, rest)
  else if significand = 0 ∨ Int64.minValue.toInt.natAbs < significand then
    floatOfParts true significand 0 rest
  else .ok (int (-significand), rest)

/-- What follows the digits of the whole part. -/
def readAfterWhole (negative : Bool) (significand : Nat) (cs : List Char) : Reading Json :=
  match cs with
  | '.' :: rest => readFraction negative significand 0 rest
  | 'e' :: rest => readExponent negative significand 0 rest
  | 'E' :: rest => readExponent negative significand 0 rest
  | _ => wholeNumber negative significand cs

/-- A number whose sign has been taken. -/
def readNumber (negative : Bool) (cs : List Char) : Reading Json :=
  match cs with
  | [] => refuse .endInValue []
  | '0' :: rest =>
    match rest with
    | c :: _ => if isDigit c then refuseNext .invalidNumber rest else readAfterWhole negative 0 rest
    | [] => readAfterWhole negative 0 []
  | c :: _ =>
    if isDigit c then
      let (significand, _, rest) := addDigits 0 0 cs
      let dropped := rest.takeWhile isDigit
      if dropped.isEmpty then readAfterWhole negative significand rest
      else
        let rest := rest.dropWhile isDigit
        match rest with
        | '.' :: after => readFraction negative significand dropped.length after
        | _ => readScale negative significand dropped.length rest
    else .error ⟨.invalidNumber, byteCount cs - 1⟩

/-! ### Strings -/

/-- Four hexadecimal digits. -/
def readUnit (cs : List Char) : Reading Nat :=
  match cs with
  | a :: b :: c :: d :: rest =>
    match Numeral.digit? 16 a, Numeral.digit? 16 b, Numeral.digit? 16 c, Numeral.digit? 16 d with
    | some a, some b, some c, some d => .ok (((a * 16 + b) * 16 + c) * 16 + d, rest)
    | _, _, _, _ => .error ⟨.invalidEscape, byteCount cs - 4⟩
  | _ =>
    if 4 ≤ byteCount cs then .error ⟨.invalidEscape, byteCount cs - 4⟩ else refuse .endInString []

/-- The character of an escape by number whose letter has been taken; two units name a character
beyond the first plane. -/
def readNumbered (cs : List Char) : Reading Char :=
  match readUnit cs with
  | .error r => .error r
  | .ok (high, rest) =>
    if 0xdc00 ≤ high ∧ high ≤ 0xdfff then refuse .loneSurrogate rest
    else if high < 0xd800 ∨ 0xdbff < high then .ok (Char.ofNat high, rest)
    else
      match rest with
      | [] => refuse .endInString []
      | '\\' :: [] => refuse .endInString []
      | '\\' :: 'u' :: rest =>
        match readUnit rest with
        | .error r => .error r
        | .ok (low, rest) =>
          if low < 0xdc00 ∨ 0xdfff < low then refuse .loneSurrogate rest
          else .ok (Char.ofNat ((high - 0xd800) * 1024 + (low - 0xdc00) + 0x10000), rest)
      | '\\' :: rest => refuseNext .endOfEscape rest
      | _ => refuseNext .endOfEscape rest

/-- The character that an escape names, its backslash taken. -/
def readEscape (cs : List Char) : Reading Char :=
  match cs with
  | [] => refuse .endInString []
  | '"' :: rest => .ok ('"', rest)
  | '\\' :: rest => .ok ('\\', rest)
  | '/' :: rest => .ok ('/', rest)
  | 'b' :: rest => .ok ('\x08', rest)
  | 'f' :: rest => .ok ('\x0c', rest)
  | 'n' :: rest => .ok ('\n', rest)
  | 'r' :: rest => .ok ('\r', rest)
  | 't' :: rest => .ok ('\t', rest)
  | 'u' :: rest => readNumbered rest
  | _ => refuseNext .invalidEscape cs

/-- The text up to the closing mark, its opening mark taken; `seen` holds its characters in reverse.
`fuel` is more than the number of characters. -/
def readText : (fuel : Nat) → (seen : List Char) → List Char → Reading String
  | 0, _, cs => refuse .endInString cs
  | _ + 1, _, [] => refuse .endInString []
  | fuel + 1, seen, c :: rest =>
    if c = '"' then .ok (String.ofList seen.reverse, rest)
    else if c = '\\' then
      match readEscape rest with
      | .error r => .error r
      | .ok (e, rest) => readText fuel (e :: seen) rest
    else if c.toNat < 0x20 then refuse .controlCharacter rest
    else readText fuel (c :: seen) rest

/-- The rest of a word whose first letter has been taken. -/
def readWord (value : Json) : List Char → List Char → Reading Json
  | [], cs => .ok (value, cs)
  | _ :: _, [] => refuse .endInValue []
  | e :: es, c :: rest =>
    if c = e then readWord value es rest else .error ⟨.expectedIdent, byteCount (c :: rest) - 1⟩

/-! ### Values -/

mutual

/-- A value. `fuel` is more than three times the number of characters, of which every three steps
take at least one, and `depth` is how many more arrays and objects may be opened. -/
def readValue : (fuel depth : Nat) → List Char → Reading Json
  | 0, _, cs => refuseNext .expectedValue cs
  | fuel + 1, depth, cs =>
    match skipSpace cs with
    | [] => refuse .endInValue []
    | 'n' :: rest => readWord null "ull".toList rest
    | 't' :: rest => readWord (bool true) "rue".toList rest
    | 'f' :: rest => readWord (bool false) "alse".toList rest
    | '-' :: rest => readNumber true rest
    | '"' :: rest => (readText fuel [] rest).map fun (s, rest) => (str s, rest)
    | '[' :: rest =>
      if depth = 0 then refuseNext .tooDeep ('[' :: rest)
      else readItems fuel (depth - 1) true [] rest
    | '\x7b' :: rest =>
      if depth = 0 then refuseNext .tooDeep ('\x7b' :: rest)
      else readMembers fuel (depth - 1) true [] rest
    | c :: rest =>
      if isDigit c then readNumber false (c :: rest) else refuseNext .expectedValue (c :: rest)

/-- The items of an array up to its end; `seen` holds the earlier ones in reverse, and `first` says
that there are none. -/
def readItems : (fuel depth : Nat) → (first : Bool) → (seen : List Json) → List Char → Reading Json
  | 0, _, _, _, cs => refuseNext .expectedValue cs
  | fuel + 1, depth, first, seen, cs =>
    match skipSpace cs with
    | [] => refuse .endInArray []
    | ']' :: rest => .ok (arr seen.reverse, rest)
    | c :: rest =>
      if first then readItem fuel depth seen (c :: rest)
      else if c = ',' then
        match skipSpace rest with
        | [] => refuse .endInValue []
        | ']' :: after => refuseNext .trailingComma (']' :: after)
        | after => readItem fuel depth seen after
      else refuseNext .expectedItemOrEnd (c :: rest)

/-- One item of an array, and what follows it. -/
def readItem : (fuel depth : Nat) → (seen : List Json) → List Char → Reading Json
  | 0, _, _, cs => refuseNext .expectedValue cs
  | fuel + 1, depth, seen, cs =>
    match readValue fuel depth cs with
    | .error r => .error r
    | .ok (item, rest) => readItems fuel depth false (item :: seen) rest

/-- The members of an object up to its end. -/
def readMembers : (fuel depth : Nat) → (first : Bool) → (seen : List (String × Json)) → List Char →
    Reading Json
  | 0, _, _, _, cs => refuseNext .expectedValue cs
  | fuel + 1, depth, first, seen, cs =>
    match skipSpace cs with
    | [] => refuse .endInObject []
    | '\x7d' :: rest => .ok (ofMembers seen.reverse, rest)
    | c :: rest =>
      if first then
        if c = '"' then readMember fuel depth seen rest else refuseNext .keyNotString (c :: rest)
      else if c = ',' then
        match skipSpace rest with
        | [] => refuse .endInValue []
        | '"' :: after => readMember fuel depth seen after
        | '\x7d' :: after => refuseNext .trailingComma ('\x7d' :: after)
        | after => refuseNext .keyNotString after
      else refuseNext .expectedMemberOrEnd (c :: rest)

/-- One member whose key's opening mark has been taken, and what follows it. -/
def readMember : (fuel depth : Nat) → (seen : List (String × Json)) → List Char → Reading Json
  | 0, _, _, cs => refuseNext .expectedValue cs
  | fuel + 1, depth, seen, cs =>
    match readText fuel [] cs with
    | .error r => .error r
    | .ok (key, rest) =>
      match skipSpace rest with
      | [] => refuse .endInObject []
      | ':' :: rest =>
        match readValue fuel depth rest with
        | .error r => .error r
        | .ok (value, rest) => readMembers fuel depth false ((key, value) :: seen) rest
      | after => refuseNext .expectedColon after

end

/-- How many arrays and objects may be open at once. -/
def maxDepth : Nat := 127

/-- A fault with the line and the column at which it was found, the latter in bytes. -/
structure SyntaxError where
  fault : SyntaxFault
  line : Nat
  column : Nat
deriving DecidableEq, Repr

def SyntaxError.message (e : SyntaxError) : String :=
  s!"{e.fault.message} at line {e.line} column {e.column}"

/-- Finds the line and the column of a refusal. -/
def Refusal.locate (r : Refusal) (text : String) : SyntaxError :=
  let bytes := text.toUTF8.toList
  let before := bytes.take (bytes.length - r.bytesLeft)
  ⟨r.fault, 1 + before.count 10, (before.reverse.takeWhile (· != 10)).length⟩

/-- The one value that a text holds. -/
def read (text : String) : Except SyntaxError Json :=
  let cs := text.toList
  match readValue (3 * cs.length + 3) maxDepth cs with
  | .error r => .error (r.locate text)
  | .ok (value, rest) =>
    match skipSpace rest with
    | [] => .ok value
    | rest =>
      match refuseNext .trailingCharacters rest with
      | .error r => .error (r.locate text)
      | .ok (value : Json) => .ok value

end RollupLedger.Json
