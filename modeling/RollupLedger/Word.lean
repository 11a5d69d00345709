/-!
Unsigned words of a fixed number of bits, as natural numbers below a bound. Amounts of currency and
gas prices are words of 256 bits; block numbers, nonces and times are words of 64.

Arithmetic on amounts saturates: a sum or product that does not fit is the largest word.
-/

set_option autoImplicit false
set_option relaxedAutoImplicit false

namespace RollupLedger

structure Word (bits : Nat) where
  toNat : Nat
  isLt : toNat < Nat.pow 2 bits
deriving DecidableEq

namespace Word

variable {bits : Nat}

@[ext] theorem ext {a b : Word bits} (h : a.toNat = b.toNat) : a = b := by
  cases a; cases b; cases h; rfl

/-- The number as a word, unless it needs more bits. -/
def ofNat? (bits n : Nat) : Option (Word bits) :=
  if h : n < Nat.pow 2 bits then some ⟨n, h⟩ else none

/-- The number, or the largest word if it needs more bits. -/
def saturate (bits n : Nat) : Word bits :=
  ⟨min n (Nat.pow 2 bits - 1), Nat.lt_of_le_pred (Nat.two_pow_pos bits) (Nat.min_le_right n _)⟩

/-- The number modulo the size of the word; literals are read through it. -/
def wrap (bits n : Nat) : Word bits :=
  ⟨n % Nat.pow 2 bits, Nat.mod_lt _ (Nat.two_pow_pos bits)⟩

instance (n : Nat) : OfNat (Word bits) n := ⟨wrap bits n⟩

instance : Inhabited (Word bits) := ⟨0⟩

instance : LE (Word bits) := ⟨fun a b => a.toNat ≤ b.toNat⟩

instance : LT (Word bits) := ⟨fun a b => a.toNat < b.toNat⟩

instance (a b : Word bits) : Decidable (a ≤ b) := inferInstanceAs (Decidable (a.toNat ≤ b.toNat))

instance (a b : Word bits) : Decidable (a < b) := inferInstanceAs (Decidable (a.toNat < b.toNat))

def isZero (a : Word bits) : Bool := a.toNat == 0

/-- The word itself, unless it is zero. -/
def nonzero? (a : Word bits) : Option (Word bits) := if a.isZero then none else some a

/-- The same number in a word of at least as many bits. -/
def widen {bits more : Nat} (a : Word bits) (h : bits.ble more := by exact Eq.refl true) :
    Word more :=
  ⟨a.toNat, Nat.lt_of_lt_of_le a.isLt
    (Nat.pow_le_pow_right (by decide) (Nat.le_of_ble_eq_true h))⟩

/-- The same number in fewer bits, if it fits. -/
def narrow? (bits : Nat) {more : Nat} (a : Word more) : Option (Word bits) := ofNat? bits a.toNat

/-- The same number in fewer bits, or the largest such word. -/
def clamp (bits : Nat) {more : Nat} (a : Word more) : Word bits := saturate bits a.toNat

def satAdd (a b : Word bits) : Word bits := saturate bits (a.toNat + b.toNat)

def satMul (a b : Word bits) : Word bits := saturate bits (a.toNat * b.toNat)

def least (a b : Word bits) : Word bits := if a ≤ b then a else b

/-- The difference, or zero where it would be negative. -/
def floorSub (a b : Word bits) : Word bits :=
  ⟨a.toNat - b.toNat, Nat.lt_of_le_of_lt (Nat.sub_le _ _) a.isLt⟩

/-- The quotient without its remainder. -/
def divNat (a : Word bits) (n : Nat) : Word bits :=
  ⟨a.toNat / n, Nat.lt_of_le_of_lt (Nat.div_le_self _ _) a.isLt⟩

/-- The minimal decimal numeral. -/
def toDecimal (a : Word bits) : String := toString a.toNat

theorem isZero_iff {a : Word bits} : a.isZero = true ↔ a.toNat = 0 := beq_iff_eq

theorem isZero_eq_false_iff {a : Word bits} : a.isZero = false ↔ a.toNat ≠ 0 :=
  beq_eq_false_iff_ne

theorem ofNat?_toNat (a : Word bits) : ofNat? bits a.toNat = some a := by
  rw [ofNat?, dif_pos a.isLt]

theorem ofNat?_eq_some_iff {n : Nat} {a : Word bits} : ofNat? bits n = some a ↔ a.toNat = n := by
  constructor
  · intro h
    unfold ofNat? at h
    split at h
    · cases h; rfl
    · cases h
  · rintro rfl
    exact ofNat?_toNat a

theorem toNat_widen {more : Nat} (a : Word bits) (h : bits.ble more) :
    (a.widen h).toNat = a.toNat := rfl

end Word

end RollupLedger
