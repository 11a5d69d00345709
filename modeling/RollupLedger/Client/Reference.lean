import RollupLedger.Client.Error

/-!
The block that a request names: by its hash, else by its number, else the latest.
-/

set_option autoImplicit false
set_option relaxedAutoImplicit false

namespace RollupLedger

open Ledger

/-- A block reference that has been read. -/
inductive BlockReference where
  | byHash (hash : Hash)
  | byNumber (number : Word 64)
  | latest
deriving DecidableEq

namespace BlockReference

/-- A request's block as messages name it. -/
def describe (requested : Option PartialBlockIdentifier) : String :=
  match requested with
  | some ⟨_, some hash⟩ => hash
  | some ⟨some index, none⟩ => index.toDecimal
  | some ⟨none, none⟩ => "latest"
  | none => "latest"

def readHash (text : String) : Except ClientError Hash :=
  (Hex.readFixed 32 text).mapError fun fault => .invalidBlock text (.malformed fault)

/-- Reads a request's block. The hash wins over the index. -/
def read (requested : Option PartialBlockIdentifier) : Except ClientError BlockReference :=
  match requested with
  | some ⟨_, some hash⟩ => (readHash hash).map byHash
  | some ⟨some index, none⟩ => .ok (byNumber index)
  | some ⟨none, none⟩ => .ok latest
  | none => .ok latest

/-- The number that a request expects its block to have. -/
def expected? (requested : Option PartialBlockIdentifier) : Option (Word 64) :=
  requested.bind PartialBlockIdentifier.index

/-- Refuses a block with another number than the request expects. -/
def check (requested : Option PartialBlockIdentifier) (actual : Word 64) :
    Except ClientError Unit :=
  match expected? requested with
  | none => .ok ()
  | some index =>
    if index = actual then .ok ()
    else .error (.invalidBlock (describe requested) (.otherNumber actual))

end BlockReference

end RollupLedger
