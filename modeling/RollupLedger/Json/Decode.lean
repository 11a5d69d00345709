import RollupLedger.Json.Writer
import RollupLedger.Text.Quoted
import RollupLedger.Word

/-!
Reading typed values out of JSON. A decoder refuses a value with the path to the part at fault and
the mismatch found there. It may also pass over a part that it cannot read; if the value is refused
later all the same, it is there that the fault is located (`Decoding.bind`).

A record is read by `record`: its members are examined in the order in which they stand, so of
several malformed ones the first is reported; only when none is malformed does a missing member
count, the first in the order of declaration. A record may also be given as the array of its members
in the order of declaration.
-/

set_option autoImplicit false
set_option relaxedAutoImplicit false

namespace RollupLedger.Json

/-- A step from a value to a part of it. -/
inductive PathStep where
  | key (name : String)
  | item (index : Nat)
deriving DecidableEq, Repr

/-- The steps as text, a point before each name but the first. -/
def stepsText : (first : Bool) → List PathStep → String
  | _, [] => ""
  | first, .key name :: rest => (if first then "" else ".") ++ name ++ stepsText false rest
  | _, .item index :: rest => "[" ++ toString index ++ "]" ++ stepsText false rest

/-- The path as text; the whole value is a point. -/
def pathText (path : List PathStep) : String :=
  if path.isEmpty then "." else stepsText true path

/-- What is wrong with a value. -/
inductive Mismatch where
  | wrongType (got : Json) (want : String)
  | wrongValue (got : Json) (want : String)
  | wrongLength (got : Nat) (want : String)
  | missingField (name : String)
  | unknownField (name : String) (known : List String)
  | noVariant (type : String)
  | unreadable (reason : String)

/-- A value as a mismatch names it. -/
def described : Json → String
  | null => "null"
  | bool b => s!"boolean `{b}`"
  | int n => s!"integer `{n}`"
  | float x => s!"floating point `{x.shortText}`"
  | str s => "string " ++ Text.quoted s
  | arr _ => "sequence"
  | obj _ => "map"

/-- The names that are known, as a choice. -/
def choiceText : List String → String
  | [a] => s!"`{a}`"
  | [a, b] => s!"`{a}` or `{b}`"
  | names => "one of " ++ ", ".intercalate (names.map fun a => s!"`{a}`")

namespace Mismatch

def message : Mismatch → String
  | wrongType got want => s!"invalid type: {got.described}, expected {want}"
  | wrongValue got want => s!"invalid value: {got.described}, expected {want}"
  | wrongLength got want => s!"invalid length {got}, expected {want}"
  | missingField name => s!"missing field `{name}`"
  | unknownField name known => s!"unknown field `{name}`, expected {choiceText known}"
  | noVariant type => s!"data did not match any variant of untagged enum {type}"
  | unreadable reason => reason

end Mismatch

/-- Where a value could not be read, and why. -/
structure DecodeFailure where
  path : List PathStep
  cause : Mismatch

namespace DecodeFailure

def pathText (failure : DecodeFailure) : String := Json.pathText failure.path

/-- The cause, after the path unless that is the whole value. -/
def message (failure : DecodeFailure) : String :=
  if failure.path.isEmpty then failure.cause.message
  else failure.pathText ++ ": " ++ failure.cause.message

/-- The same failure seen from one step further out. -/
def under (step : PathStep) (failure : DecodeFailure) : DecodeFailure :=
  { failure with path := step :: failure.path }

end DecodeFailure

/-- What comes of decoding a value. The path leads to the first part that was passed over. -/
inductive Decoding (α : Type) where
  | failed (failure : DecodeFailure)
  | decoded (value : α) (passed : Option (List PathStep))

namespace Decoding

variable {α β : Type}

/-- Decodes on. A failure is located at the first part that has been passed over. -/
def bind : Decoding α → (α → Decoding β) → Decoding β
  | failed failure, _ => failed failure
  | decoded a passed, next =>
    match next a with
    | failed failure => failed { failure with path := passed.getD failure.path }
    | decoded b later => decoded b (passed.or later)

instance : Monad Decoding where
  pure a := decoded a none
  bind := bind

@[simp] theorem pure_bind (a : α) (next : α → Decoding β) : (pure a >>= next) = next a := by
  change bind (decoded a none) next = next a
  rw [bind]
  cases next a <;> rfl

/-- Goes on in spite of a failure. -/
def passOver (failure : DecodeFailure) : Decoding Unit := decoded () (some failure.path)

/-- The same seen from one step further out. -/
def under (step : PathStep) : Decoding α → Decoding α
  | failed failure => failed (failure.under step)
  | decoded a passed => decoded a (passed.map (step :: ·))

/-- The value itself, whatever was passed over. -/
def result : Decoding α → Except DecodeFailure α
  | failed failure => .error failure
  | decoded a _ => .ok a

@[simp] theorem under_pure (step : PathStep) (a : α) :
    (pure a : Decoding α).under step = pure a := rfl

@[simp] theorem result_pure (a : α) : (pure a : Decoding α).result = .ok a := rfl

end Decoding

abbrev Decoder (α : Type) := Json → Decoding α

/-- The value that a decoder finds. -/
def Decoder.run {α : Type} (decode : Decoder α) (value : Json) : Except DecodeFailure α :=
  (decode value).result

/-- A failure of the whole value. -/
def mismatch {α : Type} (cause : Mismatch) : Decoding α := .failed ⟨[], cause⟩

/-! ### Plain values -/

def decodeAny : Decoder Json := fun value => pure value

def decodeString : Decoder String
  | str s => pure s
  | got => mismatch (.wrongType got "a string")

def decodeBool : Decoder Bool
  | bool b => pure b
  | got => mismatch (.wrongType got "a boolean")

def decodeMembers : Decoder Members
  | obj members => pure members
  | got => mismatch (.wrongType got "a map")

/-- An integer of the given number of bits, never a text. -/
def decodeWord (bits : Nat) : Decoder (Word bits)
  | int n =>
    match if n < 0 then none else Word.ofNat? bits n.toNat with
    | some word => pure word
    | none => mismatch (.wrongValue (int n) s!"u{bits}")
  | got => mismatch (.wrongType got s!"u{bits}")

/-- A signed integer of 64 bits. -/
def decodeInt64 : Decoder Int64
  | int n =>
    if Int64.minValue.toInt ≤ n ∧ n ≤ Int64.maxValue.toInt then pure (Int64.ofInt n)
    else mismatch (.wrongValue (int n) "i64")
  | got => mismatch (.wrongType got "i64")

def decodeItems {α : Type} (decode : Decoder α) : (index : Nat) → List Json → Decoding (List α)
  | _, [] => pure []
  | index, item :: rest => do
    let a ← (decode item).under (.item index)
    return a :: (← decodeItems decode (index + 1) rest)

def decodeList {α : Type} (decode : Decoder α) : Decoder (List α)
  | arr items => decodeItems decode 0 items
  | got => mismatch (.wrongType got "a sequence")

/-- A value that may be null. -/
def decodeNullable {α : Type} (decode : Decoder α) : Decoder (Option α)
  | null => pure none
  | value => some <$> decode value

/-! ### Records -/

/-- The members of a record, in the order in which they are met. They are `positional` if they were
given as an array. -/
structure Source where
  members : Members
  positional : Bool

/-- Whether the member with one key is met before that with another. -/
def Source.meetsFirst (source : Source) (key other : String) : Bool :=
  source.members.findIdx (·.1 == key) < source.members.findIdx (·.1 == other)

/-- What is wrong with one member of a record. -/
inductive Flaw where
  | malformed (key : String) (failure : DecodeFailure)
  | unknown (key : String)
  | missing (key : String)

namespace Flaw

/-- The key of a member that is there and at fault. -/
def presentKey? : Flaw → Option String
  | malformed key _ => some key
  | unknown key => some key
  | missing _ => none

/-- Of two flaws the one that is met first. A member that is there comes before one that is not. -/
def earlier (source : Source) (a b : Flaw) : Flaw :=
  match a.presentKey?, b.presentKey? with
  | some k, some l => if source.meetsFirst l k then b else a
  | none, some _ => b
  | _, none => a

/-- The failure that the first flaw of an object is reported as. -/
def inObject (known : List String) : Flaw → DecodeFailure
  | malformed key failure => failure.under (.key key)
  | unknown key => ⟨[.key key], .unknownField key known⟩
  | missing key => ⟨[], .missingField key⟩

/-- The failure that the first flaw of a record given as an array is reported as. -/
def inArray (names : List String) (given : Nat) : Flaw → DecodeFailure
  | malformed key failure => failure.under (.item (names.idxOf key))
  | _ => ⟨[], .wrongLength given s!"{names.length} elements"⟩

end Flaw

/-- A part of a member that was passed over. -/
structure Gap where
  key : String
  path : List PathStep

namespace Gap

/-- Of two gaps the one that is met first. -/
def earlier (source : Source) : Option Gap → Option Gap → Option Gap
  | some a, some b => some (if source.meetsFirst b.key a.key then b else a)
  | a, b => a.or b

/-- Whether a gap is met before a flaw. -/
def precedes (source : Source) (gap : Gap) (flaw : Flaw) : Bool :=
  match flaw.presentKey? with
  | some key => source.meetsFirst gap.key key
  | none => true

end Gap

/-- What comes of reading some members of a record: what they make, or the first flaw among them,
and the first gap. -/
structure Survey (α : Type) where
  outcome : Except Flaw α
  gap : Option Gap

namespace Survey

variable {α β : Type}

/-- Adds another flaw. -/
def withFlaw (source : Source) (survey : Survey α) (flaw : Flaw) : Survey α :=
  match survey.outcome with
  | .ok _ => { survey with outcome := .error flaw }
  | .error other => { survey with outcome := .error (other.earlier source flaw) }

def ap (source : Source) (f : Survey (α → β)) (a : Survey α) : Survey β :=
  let outcome := match f.outcome, a.outcome with
    | .ok f, .ok a => .ok (f a)
    | .ok _, .error flaw => .error flaw
    | .error flaw, .ok _ => .error flaw
    | .error flaw, .error other => .error (flaw.earlier source other)
  ⟨outcome, Gap.earlier source f.gap a.gap⟩

/-- What comes of the whole record: `step` leads to a member, and `report` tells of its flaw. -/
def conclude (source : Source) (step : String → PathStep) (report : Flaw → DecodeFailure)
    (survey : Survey α) : Decoding α :=
  match survey.outcome with
  | .ok a => .decoded a (survey.gap.map fun gap => step gap.key :: gap.path)
  | .error flaw =>
    match survey.gap.filter (·.precedes source flaw) with
    | some gap => .failed { report flaw with path := step gap.key :: gap.path }
    | none => .failed (report flaw)

end Survey

/-- Reads some members of a record. -/
def Fields (α : Type) := Source → Survey α

namespace Fields

variable {α : Type}

instance : Applicative Fields where
  pure a := fun _ => ⟨.ok a, none⟩
  seq f a := fun source => (f source).ap source (a () source)

/-- Reads a member, or does without it. -/
def field (key : String) (decode : Decoder α) (absent : Source → Except Flaw α) : Fields α :=
  fun source =>
    match source.members.lookup key with
    | none => ⟨absent source, none⟩
    | some value =>
      match decode value with
      | .decoded a passed => ⟨.ok a, passed.map fun path => ⟨key, path⟩⟩
      | .failed failure => ⟨.error (.malformed key failure), none⟩

def required (key : String) (decode : Decoder α) : Fields α :=
  field key decode fun _ => .error (.missing key)

/-- A member that may be absent. -/
def withDefault (key : String) (default : α) (decode : Decoder α) : Fields α :=
  field key decode fun _ => .ok default

/-- A member that may be absent or null. -/
def optional (key : String) (decode : Decoder α) : Fields (Option α) :=
  withDefault key none (decodeNullable decode)

/-- A member that may be absent or null, but has its place in the array form. -/
def placed (key : String) (decode : Decoder α) : Fields (Option α) :=
  field key (decodeNullable decode) fun source =>
    if source.positional then .error (.missing key) else .ok none

end Fields

/-- The first member whose key is not in the list. -/
def firstUnknown? (names : List String) (members : Members) : Option Flaw :=
  (members.find? fun m => !names.contains m.1).map fun m => .unknown m.1

/-- Reads the members of an object. -/
def readObject {α : Type} (names : List String) (closed : Bool) (fields : Fields α)
    (members : Members) : Decoding α :=
  let source : Source := ⟨members, false⟩
  let survey := match if closed then firstUnknown? names members else none with
    | some strange => (fields source).withFlaw source strange
    | none => fields source
  survey.conclude source .key (Flaw.inObject names)

/-- Reads the members of a record given as an array. -/
def readArray {α : Type} (names : List String) (fields : Fields α) (items : List Json) :
    Decoding α := do
  let source : Source := ⟨names.zip items, true⟩
  let a ← (fields source).conclude source (fun key => .item (names.idxOf key))
    (Flaw.inArray names items.length)
  if names.length < items.length then
    mismatch (.wrongLength items.length "fewer elements in array")
  else return a

/-- A record whose members have these names, in the order of declaration. A closed one has no other
members. -/
def record {α : Type} (names : List String) (fields : Fields α) (closed : Bool := false) : Decoder α
  | obj members => readObject names closed fields members
  | arr items => readArray names fields items
  | got => mismatch (.wrongType got "a record")

/-- A record in two parts: what the inner part lacks or gets wrong is a failure of the whole, found
only after the outer members are read. -/
def splitRecord {α β γ : Type} (join : α → β → γ) (outer : Fields α) (inner : Fields β) : Decoder γ
  | obj members => do
    let a ← readObject [] false outer members
    match readObject [] false inner members with
    | .failed failure => mismatch failure.cause
    | .decoded b _ => return join a b
  | got => mismatch (.wrongType got "a record")

end RollupLedger.Json
