import RollupLedger.Bytes.Basic
import RollupLedger.Event
import RollupLedger.Sum
import RollupLedger.Text.Blank

/-!
Variables from the environment and from a file of assignments, one a line. A variable that exists
is not assigned again, so what is in the environment wins over the file, and of two lines the first
one.

A line is `KEY=value`, possibly after `export`. A value may be quoted, in which case it may go on
over several lines. `logicalLines` joins lines accordingly, and `readLine` reads one of them. The
first line that is malformed ends the reading; the lines before it count.
-/

set_option autoImplicit false
set_option relaxedAutoImplicit false

namespace RollupLedger

/-- Variables and their values; of several with one name the first counts. -/
abbrev Environment := List (String × String)

namespace EnvFile

open Text

/-- Why a file could not be read to its end. -/
inductive Fault where
  | notText
  | malformed (text : String) (index : Nat)
deriving DecidableEq, Repr

/-- How many bytes a text has. -/
def byteCount (cs : List Char) : Nat := sumOf Char.utf8Size cs

/-! ### Joining lines -/

/-- What a character of a line belongs to. -/
inductive Mode where
  | plain
  | blank
  | escape
  | single
  | singleEscape
  | double
  | doubleEscape
deriving DecidableEq, Repr

/-- The mode that a character begins outside quotes. -/
def Mode.open (c : Char) : Mode :=
  if c = '\\' then escape else if c = '"' then double else if c = '\'' then single else plain

/-- The mode after a character, or none where a comment begins. -/
def Mode.next? (c : Char) : Mode → Option Mode
  | blank => if c = '#' then none else some (Mode.open c)
  | escape => some plain
  | plain => some (if isBlank c ∧ c ≠ '\n' ∧ c ≠ '\r' then blank else Mode.open c)
  | double => some (if c = '\\' then doubleEscape else if c = '"' then plain else double)
  | doubleEscape => some double
  | single => some (if c = '\\' then singleEscape else if c = '\'' then plain else single)
  | singleEscape => some single

/-- The characters before a comment, and the mode at the end unless there is one. -/
def scan : Mode → List Char → List Char × Option Mode
  | mode, [] => ([], some mode)
  | mode, c :: rest =>
    match mode.next? c with
    | none => ([], none)
    | some next =>
      let (before, last) := scan next rest
      (c :: before, last)

/-- A text without the line break at its end. -/
def withoutBreak (cs : List Char) : List Char :=
  match cs.reverse with
  | '\n' :: '\r' :: rest => rest.reverse
  | '\n' :: rest => rest.reverse
  | _ => cs

/-- Joins lines until quotes are closed. A line that begins with a comment is empty, and a comment
at the end of a line is left out. -/
def logicalLines : (held : List Char) → Mode → List Bytes → List (Except Fault (List Char))
  | _, .plain, [] => []
  | held, _, [] => [.error (.malformed (String.ofList held) (byteCount held))]
  | held, mode, line :: rest =>
    match String.fromUTF8? ⟨line.toArray⟩ with
    | none => [.error .notText]
    | some text =>
      let whole := held ++ text.toList
      if (trimStart whole).head? = some '#' then .ok [] :: logicalLines [] .plain rest
      else
        match scan mode text.toList with
        | (before, none) => .ok (held ++ before) :: logicalLines [] .plain rest
        | (_, some .plain) => .ok (withoutBreak whole) :: logicalLines [] .plain rest
        | (_, some mode) => logicalLines whole mode rest

/-- The lines of a file, each with its line break. -/
def splitLines : Bytes → List Bytes
  | [] => []
  | b :: rest =>
    if b = 0x0a then [b] :: splitLines rest
    else
      match splitLines rest with
      | [] => [[b]]
      | line :: lines => (b :: line) :: lines

/-! ### Values -/

/-- What names in a value stand for: variables, and what the file assigned before. -/
structure Names where
  environment : Environment
  assigned : Environment

/-- A name that nothing stands for is empty. -/
def Names.value (names : Names) (name : List Char) : List Char :=
  let name := String.ofList name
  ((names.environment.lookup name).getD ((names.assigned.lookup name).getD "")).toList

/-- Where in a value a character stands. -/
inductive Place where
  | bare
  | single
  | double
  | escaped (inDouble : Bool)
  | name (inDouble : Bool) (name : List Char)
  | braced (inDouble : Bool) (name : List Char)
  | ended
deriving DecidableEq, Repr

def Place.quoted (inDouble : Bool) : Place := if inDouble then .double else .bare

/-- Takes a character outside single quotes in. -/
def readOpen (inDouble : Bool) (c : Char) : List Char × Place :=
  if c = '$' then ([], .name inDouble [])
  else if c = '\\' then ([], .escaped inDouble)
  else if inDouble then (if c = '"' then ([], .bare) else ([c], .double))
  else if c = '\'' then ([], .single)
  else if c = '"' then ([], .double)
  else if c = ' ' ∨ c = '\t' then ([], .ended)
  else ([c], .bare)

/-- The character that an escape stands for. -/
def escaped? (c : Char) : Option Char :=
  if c = 'n' then some '\n'
  else if c = '\\' ∨ c = '\'' ∨ c = '"' ∨ c = '$' ∨ c = ' ' then some c
  else none

/-- Takes a character in: what it adds to the value and the place after it, if it may stand
there. -/
def readChar (names : Names) (c : Char) : Place → Option (List Char × Place)
  | .ended => if c = ' ' ∨ c = '\t' then some ([], .ended) else none
  | .escaped inDouble => (escaped? c).map fun c => ([c], .quoted inDouble)
  | .single => some (if c = '\'' then ([], .bare) else ([c], .single))
  | .bare => some (readOpen false c)
  | .double => some (readOpen true c)
  | .name inDouble name =>
    if c.isAlphanum then some ([], .name inDouble (name ++ [c]))
    else if c = '\x7b' ∧ name.isEmpty then some ([], .braced inDouble [])
    else if c = '$' then some (names.value name, .name inDouble [])
    else some (names.value name ++ [c], .quoted inDouble)
  | .braced inDouble name =>
    if c.isAlphanum then some ([], .braced inDouble (name ++ [c]))
    else if c = '\x7d' then some (names.value name, .quoted inDouble)
    else some ([], .braced inDouble (name ++ [c]))

/-- Reads a value; `index` counts the characters read. The text may end in any place but within
quotes or braces. -/
def readValueFrom (names : Names) (value : List Char) :
    Place → (index : Nat) → List Char → Except Fault (List Char)
  | place, _, [] =>
    let unclosed : Except Fault (List Char) :=
      .error (.malformed (String.ofList value) (byteCount value - 1))
    match place with
    | .single => unclosed
    | .double => unclosed
    | .escaped true => unclosed
    | .name true _ => unclosed
    | .braced _ _ => unclosed
    | .name false name => .ok (names.value name)
    | _ => .ok []
  | place, index, c :: rest =>
    if place = .ended ∧ c = '#' then .ok []
    else
      match readChar names c place with
      | none => .error (.malformed (String.ofList value) index)
      | some (added, place) => (readValueFrom names value place (index + 1) rest).map (added ++ ·)

def readValue (names : Names) (value : List Char) : Except Fault (List Char) :=
  readValueFrom names value .bare 0 value

/-! ### Assignments -/

/-- What is left of a line, and how many bytes of it have been read. -/
structure Rest where
  chars : List Char
  read : Nat

def Rest.skipBlanks (rest : Rest) : Rest :=
  ⟨rest.chars.dropWhile isBlank, rest.read + byteCount (rest.chars.takeWhile isBlank)⟩

def isKeyStart (c : Char) : Bool := c.isAlpha || c == '_'

def isKeyChar (c : Char) : Bool := c.isAlphanum || c == '_' || c == '.'

/-- A key, and what follows it after blanks. -/
def Rest.key? (rest : Rest) : Option (String × Rest) :=
  if rest.chars.head?.any isKeyStart then
    let key := rest.chars.takeWhile isKeyChar
    some (String.ofList key,
      Rest.skipBlanks ⟨rest.chars.dropWhile isKeyChar, rest.read + byteCount key⟩)
  else none

/-- What follows a sign of equality. -/
def Rest.afterEqual? (rest : Rest) : Option Rest :=
  match rest.chars with
  | '=' :: chars => some ⟨chars, rest.read + 1⟩
  | _ => none

/-- A key with a sign of equality after it; otherwise the place where reading stopped. -/
def Rest.assignment (rest : Rest) : Except Nat (String × Rest) :=
  match rest.key? with
  | none => .error rest.read
  | some (key, rest) =>
    match rest.afterEqual? with
    | some after => .ok (key, after)
    | none =>
      if key = "export" then
        match rest.key? with
        | none => .error rest.read
        | some (key, rest) =>
          match rest.afterEqual? with
          | some after => .ok (key, after)
          | none => .error rest.read
      else .error rest.read

/-- Whether a line has nothing more to say. -/
def saysNothing (cs : List Char) : Bool := cs.isEmpty || cs.head? = some '#'

/-- Reads a line: a key and its value, or nothing. -/
def readLine (names : Names) (line : List Char) : Except Fault (Option (String × String)) :=
  let rest := Rest.skipBlanks ⟨trimEnd line, 0⟩
  if saysNothing rest.chars then .ok none
  else
    match rest.assignment with
    | .error index => .error (.malformed (String.ofList line) index)
    | .ok (key, rest) =>
      let value := rest.skipBlanks.chars
      if saysNothing value then .ok (some (key, ""))
      else (readValue names value).map fun value => some (key, String.ofList value)

/-! ### The file -/

/-- Assigns a variable that does not exist. -/
def define (environment : Environment) (name value : String) : Environment :=
  if (environment.lookup name).isSome then environment else environment ++ [(name, value)]

/-- Takes lines in up to the first that is at fault. -/
def load : Names → List (Except Fault (List Char)) → Environment × Option Fault
  | names, [] => (names.environment, none)
  | names, .error fault :: _ => (names.environment, some fault)
  | names, .ok line :: rest =>
    match readLine names line with
    | .error fault => (names.environment, some fault)
    | .ok none => load names rest
    | .ok (some (key, value)) =>
      load ⟨define names.environment key value, (key, value) :: names.assigned⟩ rest

/-- A file without the mark of its encoding. -/
def withoutMark : Bytes → Bytes
  | 0xef :: 0xbb :: 0xbf :: rest => rest
  | content => content

/-- The environment after a file has been loaded, and what ended the reading before its end. -/
def loadContent (environment : Environment) (content : Bytes) : Environment × Option Fault :=
  load ⟨environment, []⟩ (logicalLines [] .plain (splitLines (withoutMark content)))

/-- A place where a file may be, with the content of the file that is there. -/
structure Candidate where
  path : String
  content : Option Bytes

/-- What there is to note about a file that was loaded. -/
def report (path : String) : Option Fault → Event
  | none => .loadedVariables path
  | some .notText => .unreadableVariables "stream did not contain valid UTF-8"
  | some (.malformed text index) => .malformedVariables text index

/-- Loads the first file that is there. Nothing is noted if there is none. -/
def loadFirst (environment : Environment) : List Candidate → Environment × List Event
  | [] => (environment, [])
  | candidate :: rest =>
    match candidate.content with
    | none => loadFirst environment rest
    | some content =>
      let (environment, fault) := loadContent environment content
      (environment, [report candidate.path fault])

end EnvFile

end RollupLedger
