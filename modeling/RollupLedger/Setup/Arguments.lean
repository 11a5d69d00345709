import RollupLedger.Setup.EnvFile

/-!
Arguments of a command. A `Grammar` says which options there are, which values stand on their own,
and which words begin a command of the next level; reading goes from left to right and changes a
result of type `S` by what each option says.

An option is given as `--name value` or `--name=value`, a switch as `--name`. A value is only
looked at when the next option or value comes, so an argument that is unknown is found before a
malformed value in front of it. A value that begins with a hyphen must be given after a sign of
equality. After `--` every argument is a value on its own.
-/

set_option autoImplicit false
set_option relaxedAutoImplicit false

namespace RollupLedger.Arguments

/-- What is wrong with the arguments or with a variable that stands for one. -/
inductive Misuse where
  | unknownArgument
  | missingValue
  | malformedValue
  | malformedSwitch
  | needlessValue
  | repeated
  | missingArgument
  | missingCommand
  | unknownCommand
deriving DecidableEq, Repr

/-- Why reading ends before its end. -/
inductive Interruption where
  | help
  | misuse (fault : Misuse)
deriving DecidableEq, Repr

/-- What an option does to the result. A value may be refused. -/
inductive Effect (S : Type) where
  | switch (set : Bool → S → S)
  | value (set : String → S → Option S)

/-- An option and the variable that is asked where the option is not given. -/
structure Choice (S : Type) where
  name : String
  fromVariable : Option String
  effect : Effect S

/-- A value that stands on its own. -/
structure Operand (S : Type) where
  required : Bool
  set : String → S → Option S

structure Grammar (S : Type) where
  choices : List (Choice S)
  operands : List (Operand S)
  commands : List String

/-- What has been given and not been looked at yet. -/
inductive Pending (S : Type) where
  | nothing
  | choice (name : String) (set : String → S → Option S) (text : Option String)
  | operand (set : String → S → Option S) (text : String)

structure Reading (S : Type) where
  result : S
  given : List String
  operands : List (Operand S)
  pending : Pending S

variable {S : Type}

def misused {α : Type} (fault : Misuse) : Except Interruption α := .error (.misuse fault)

namespace Reading

/-- Whether the next argument may be the value of an option. -/
def awaitsValue (r : Reading S) : Bool :=
  match r.pending with
  | .choice _ _ none => true
  | _ => false

/-- Sets a value. -/
def assign (r : Reading S) (set : String → S → Option S) (text : String) :
    Except Interruption (Reading S) :=
  match set text r.result with
  | some result => .ok { r with result := result }
  | none => misused .malformedValue

/-- Notes that an option is given, which may happen once. -/
def mark (r : Reading S) (name : String) : Except Interruption (Reading S) :=
  if r.given.contains name then misused .repeated else .ok { r with given := name :: r.given }

/-- Looks at what is pending. -/
def settle (r : Reading S) : Except Interruption (Reading S) :=
  let rest : Reading S := { r with pending := .nothing }
  match r.pending with
  | .nothing => .ok rest
  | .choice _ _ none => misused .missingValue
  | .choice name set (some text) => do (← rest.mark name).assign set text
  | .operand set text => rest.assign set text

/-- Takes an option in, with the value attached to it if there is one. -/
def takeChoice (r : Reading S) (choice : Choice S) (attached : Option String) :
    Except Interruption (Reading S) :=
  match choice.effect, attached with
  | .switch _, some _ => misused .needlessValue
  | .switch set, none => do
    let r ← (← r.settle).mark choice.name
    return { r with result := set true r.result }
  | .value set, some text => do (← (← r.settle).mark choice.name).assign set text
  | .value set, none => do
    let r ← r.settle
    return { r with pending := .choice choice.name set none }

/-- Takes a value in: of the option that awaits one, or on its own. -/
def takeOperand (r : Reading S) (text : String) : Except Interruption (Reading S) :=
  match r.operands with
  | [] => misused .unknownArgument
  | operand :: rest => do
    let r ← r.settle
    return { r with operands := rest, pending := .operand operand.set text }

def takeValue (r : Reading S) (text : String) : Except Interruption (Reading S) :=
  match r.pending with
  | .choice name set none => .ok { r with pending := .choice name set (some text) }
  | _ => r.takeOperand text

/-- Help is given once what is pending has been looked at. -/
def help (r : Reading S) : Except Interruption (Reading S) :=
  match r.settle with
  | .ok _ => .error .help
  | .error stop => .error stop

end Reading

/-- The name of an option and the value attached to it, given by what follows the two hyphens. -/
def splitAttached (cs : List Char) : String × Option String :=
  (String.ofList (cs.takeWhile (· ≠ '=')),
    match cs.dropWhile (· ≠ '=') with
    | _ :: value => some (String.ofList value)
    | [] => none)

/-- Takes an argument in that is no command. -/
def takeArgument (g : Grammar S) (r : Reading S) (argument : String) :
    Except Interruption (Reading S) :=
  match argument.toList with
  | '-' :: '-' :: cs =>
    let (name, attached) := splitAttached cs
    match g.choices.find? (·.name == name) with
    | some choice => r.takeChoice choice attached
    | none =>
      if name = "help" then (if attached.isSome then misused .needlessValue else r.help)
      else misused .unknownArgument
  | '-' :: 'h' :: _ => r.help
  | '-' :: _ :: _ => misused .unknownArgument
  | _ => r.takeValue argument

/-- Reads arguments up to their end or to a command, which is given with the arguments after it.
After `--` they are `literal`. -/
def readFrom (g : Grammar S) : (literal : Bool) → Reading S → List String →
    Except Interruption (Reading S × Option (String × List String))
  | _, r, [] => .ok (r, none)
  | true, r, argument :: rest => do readFrom g true (← r.takeOperand argument) rest
  | false, r, argument :: rest =>
    if !r.awaitsValue && g.commands.contains argument then .ok (r, some (argument, rest))
    else if argument = "--" then readFrom g true r rest
    else do readFrom g false (← takeArgument g r argument) rest

/-- Reads arguments from a result in which nothing is given. -/
def read (g : Grammar S) (start : S) (arguments : List String) :
    Except Interruption (Reading S × Option (String × List String)) :=
  readFrom g false ⟨start, [], g.operands, .nothing⟩ arguments

/-- The value of a switch in a variable. -/
def switchValue? (text : String) : Option Bool :=
  if text = "true" then some true else if text = "false" then some false else none

/-- Takes the variable of an option in. -/
def applyVariable (choice : Choice S) (text : String) (result : S) : Except Interruption S :=
  match choice.effect with
  | .switch set =>
    match switchValue? text with
    | some value => .ok (set value result)
    | none => misused .malformedSwitch
  | .value set =>
    match set text result with
    | some result => .ok result
    | none => misused .malformedValue

/-- Takes in the variables of the options that are not given, in the order of the options. -/
def applyVariables (environment : Environment) (given : List String) :
    List (Choice S) → S → Except Interruption S
  | [], result => .ok result
  | choice :: rest, result =>
    match if given.contains choice.name then none
      else choice.fromVariable.bind (environment.lookup ·) with
    | none => applyVariables environment given rest result
    | some text => do applyVariables environment given rest (← applyVariable choice text result)

/-- The result once all arguments are read: what is pending is looked at, the variables are asked,
and no operand that is required may be missing. -/
def finish (g : Grammar S) (environment : Environment) (r : Reading S) : Except Interruption S := do
  let r ← r.settle
  let result ← applyVariables environment r.given g.choices r.result
  if r.operands.any Operand.required then misused .missingArgument else return result

/-- Reads arguments among which no command is. -/
def readAll (g : Grammar S) (environment : Environment) (start : S) (arguments : List String) :
    Except Interruption S := do
  finish g environment (← read { g with commands := [] } start arguments).1

end RollupLedger.Arguments
