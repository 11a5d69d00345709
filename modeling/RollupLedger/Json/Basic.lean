import RollupLedger.Binary64

/-!
JSON values. An integer keeps its exact value if it lies between -2 ^ 63 and 2 ^ 64 - 1 and is a
floating-point number otherwise. The members of an object are in ascending order of their keys,
which are distinct: `Json.ofMembers` brings them into that form, the last of several with one key
winning.
-/

set_option autoImplicit false
set_option relaxedAutoImplicit false

namespace RollupLedger

inductive Json where
  | null
  | bool (value : Bool)
  | int (value : Int)
  | float (value : Binary64)
  | str (value : String)
  | arr (items : List Json)
  | obj (members : List (String × Json))

namespace Json

instance : Inhabited Json := ⟨null⟩

/-- The members of a JSON object. -/
abbrev Members := List (String × Json)

mutual

def same : Json → Json → Bool
  | null, null => true
  | bool a, bool b => a == b
  | int a, int b => a == b
  | float a, float b => a == b
  | str a, str b => a == b
  | arr a, arr b => sameItems a b
  | obj a, obj b => sameMembers a b
  | _, _ => false

def sameItems : List Json → List Json → Bool
  | [], [] => true
  | a :: as, b :: bs => same a b && sameItems as bs
  | _, _ => false

def sameMembers : List (String × Json) → List (String × Json) → Bool
  | [], [] => true
  | (k, a) :: as, (l, b) :: bs => k == l && same a b && sameMembers as bs
  | _, _ => false

end

mutual

theorem same_iff : (a b : Json) → (same a b = true ↔ a = b)
  | null, b => by cases b <;> simp [same]
  | bool _, b => by cases b <;> simp [same]
  | int _, b => by cases b <;> simp [same]
  | float _, b => by cases b <;> simp [same]
  | str _, b => by cases b <;> simp [same]
  | arr as, b => by cases b <;> simp [same, sameItems_iff as]
  | obj as, b => by cases b <;> simp [same, sameMembers_iff as]

theorem sameItems_iff : (as bs : List Json) → (sameItems as bs = true ↔ as = bs)
  | [], bs => by cases bs <;> simp [sameItems]
  | a :: as, [] => by simp [sameItems]
  | a :: as, b :: bs => by simp [sameItems, same_iff a b, sameItems_iff as bs]

theorem sameMembers_iff :
    (as bs : List (String × Json)) → (sameMembers as bs = true ↔ as = bs)
  | [], bs => by cases bs <;> simp [sameMembers]
  | (k, a) :: as, [] => by simp [sameMembers]
  | (k, a) :: as, (l, b) :: bs => by
    simp [sameMembers, same_iff a b, sameMembers_iff as bs]

end

instance : DecidableEq Json := fun a b => decidable_of_iff _ (same_iff a b)

/-- Puts a member at its place, instead of one with the same key. -/
def insertMember (key : String) (value : Json) : Members → Members
  | [] => [(key, value)]
  | (k, v) :: rest =>
    if key < k then (key, value) :: (k, v) :: rest
    else if key = k then (key, value) :: rest
    else (k, v) :: insertMember key value rest

/-- The object with these members. -/
def ofMembers (members : Members) : Json :=
  obj (members.foldl (fun acc m => insertMember m.1 m.2 acc) [])

/-- The member with this key, if the value is an object that has one. -/
def get? (key : String) : Json → Option Json
  | obj members => members.lookup key
  | _ => none

def isNull : Json → Bool
  | null => true
  | _ => false

def nat (n : Nat) : Json := int n

/-- The value, or null for none. -/
def orNull {α : Type} (write : α → Json) : Option α → Json
  | some a => write a
  | none => null

/-- A member that is left out for none. -/
def optional {α : Type} (key : String) (write : α → Json) : Option α → Members
  | some a => [(key, write a)]
  | none => []

end Json

end RollupLedger
