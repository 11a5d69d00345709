import RollupLedger.Wire.Scalar

/-!
A number that nodes render either as an integer or as a text, depending on the interface. Which of
the two it was is kept, so that it is written again in kind.
-/

set_option autoImplicit false
set_option relaxedAutoImplicit false

namespace RollupLedger.Wire

inductive Quantity where
  | number (value : Word 64)
  | big (value : Word 256)
deriving DecidableEq

namespace Quantity

/-- The number itself. -/
def value : Quantity → Word 256
  | number n => n.widen
  | big n => n

/-- The number as a word of 64 bits, if it fits. -/
def short? : Quantity → Option (Word 64)
  | number n => some n
  | big n => n.narrow? 64

def encode : Quantity → Json
  | number n => encodeWord n
  | big n => encodeQuantity n

def decode : Json.Decoder Quantity := fun json =>
  match (Json.decodeWord 64).run json, (decodeQuantity 256).run json with
  | .ok n, _ => pure (number n)
  | .error _, .ok n => pure (big n)
  | .error _, .error _ => Json.mismatch (.noVariant "Quantity")

end Quantity

end RollupLedger.Wire
