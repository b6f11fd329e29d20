/-!
# Binary floating point

The binary interchange formats as natural numbers of bits, and rounding of exact quotients to them:
to the nearest value, a half to the even one.  No arithmetic is done here on anything but whole
numbers; sums and products of values are exact before they are rounded.
-/

namespace EngineBindings

/-- A binary floating-point format. -/
structure BinaryFormat where
  /-- The number of bits of a significand, the leading one included. -/
  precision : Nat
  /-- The number of bits of an exponent. -/
  exponentBits : Nat
  deriving DecidableEq, Inhabited

namespace BinaryFormat

/-- The format of 32 bits. -/
def binary32 : BinaryFormat := ⟨24, 8⟩

/-- The format of 64 bits. -/
def binary64 : BinaryFormat := ⟨53, 11⟩

/-- The bits of the first significand that has its leading bit. -/
def leading (f : BinaryFormat) : Nat :=
  Nat.pow 2 (f.precision - 1)

/-- The bits of infinity. -/
def infinity (f : BinaryFormat) : Nat :=
  (Nat.pow 2 f.exponentBits - 1) * f.leading

/-- The bit of the sign. -/
def signBit (f : BinaryFormat) : Nat :=
  Nat.pow 2 f.exponentBits * f.leading

/-- The least positive value is two to minus this power. -/
def depth (f : BinaryFormat) : Nat :=
  Nat.pow 2 (f.exponentBits - 1) + f.precision - 3

/-- Bits without the sign. -/
def magnitude (f : BinaryFormat) (bits : Nat) : Nat :=
  bits % f.signBit

/-- Whether bits carry the sign. -/
def isNegative (f : BinaryFormat) (bits : Nat) : Bool :=
  f.signBit ≤ bits

/-- Whether bits are no number. -/
def isNaN (f : BinaryFormat) (bits : Nat) : Bool :=
  f.infinity < f.magnitude bits

/-- Whether bits are a number other than an infinity. -/
def isFinite (f : BinaryFormat) (bits : Nat) : Bool :=
  f.magnitude bits < f.infinity

/-- The significand and the exponent of a magnitude: its value is the significand times two to the
exponent, in units of the least positive value. -/
def decode (f : BinaryFormat) (magnitude : Nat) : Nat × Nat :=
  if magnitude < f.leading then (magnitude, 0)
  else (f.leading + magnitude % f.leading, magnitude / f.leading - 1)

/-- The greatest power of two that is not above a quotient, which may be a negative power. -/
def floorLog2 (num den : Nat) : Int :=
  let guess : Int := (num.log2 : Int) - (den.log2 : Int)
  let reached :=
    if 0 ≤ guess then den * Nat.pow 2 guess.toNat ≤ num
    else den ≤ num * Nat.pow 2 (-guess).toNat
  if reached then guess else guess - 1

/-- A quotient rounded to the nearest whole number, a half to the even one. -/
def roundQuotient (num den : Nat) : Nat :=
  let quotient := num / den
  let twice := 2 * (num % den)
  if twice < den then quotient
  else if den < twice then quotient + 1
  else quotient + quotient % 2

/-- The magnitude nearest to a quotient; what is too great becomes infinity. -/
def ofQuotient (f : BinaryFormat) (num den : Nat) : Nat :=
  if num = 0 then 0
  else
    let exponent := max (-(f.depth : Int)) (floorLog2 num den - ((f.precision - 1 : Nat) : Int))
    let significand :=
      if 0 ≤ exponent then roundQuotient num (den * Nat.pow 2 exponent.toNat)
      else roundQuotient (num * Nat.pow 2 (-exponent).toNat) den
    min f.infinity ((exponent + f.depth).toNat * f.leading + significand)

/-! ## Arithmetic of magnitudes -/

/-- How many times the least positive value a magnitude is. -/
def units (f : BinaryFormat) (magnitude : Nat) : Nat :=
  let (significand, exponent) := f.decode magnitude
  significand * Nat.pow 2 exponent

/-- The magnitude nearest to a number of units. -/
def ofUnits (f : BinaryFormat) (n : Nat) : Nat :=
  f.ofQuotient n (Nat.pow 2 f.depth)

/-- The rounded sum of two magnitudes. -/
def add (f : BinaryFormat) (a b : Nat) : Nat :=
  f.ofUnits (f.units a + f.units b)

/-- The rounded difference of two magnitudes, of which the second one is not greater. -/
def sub (f : BinaryFormat) (a b : Nat) : Nat :=
  f.ofUnits (f.units a - f.units b)

/-- The rounded product of two magnitudes. -/
def mul (f : BinaryFormat) (a b : Nat) : Nat :=
  f.ofQuotient (f.units a * f.units b) (Nat.pow 2 (2 * f.depth))

/-- The rounded quotient of two magnitudes. -/
def div (f : BinaryFormat) (a b : Nat) : Nat :=
  f.ofQuotient (f.units a) (f.units b)

/-- The bits of a value in another format. -/
def convert (source target : BinaryFormat) (bits : Nat) : Nat :=
  let sign := if source.isNegative bits then target.signBit else 0
  let magnitude := source.magnitude bits
  if source.infinity < magnitude then sign + target.infinity + target.leading / 2
  else if magnitude = source.infinity then sign + target.infinity
  else
    let (significand, exponent) := source.decode magnitude
    sign + target.ofQuotient (significand * Nat.pow 2 exponent) (Nat.pow 2 source.depth)

/-- The bits of a whole number. -/
def ofInt (f : BinaryFormat) (n : Int) : Nat :=
  (if n < 0 then f.signBit else 0) + f.ofQuotient n.natAbs 1

/-- Whether bits compare as equal numbers: no number equals nothing, and zero has no sign. -/
def equal (f : BinaryFormat) (a b : Nat) : Bool :=
  !f.isNaN a && !f.isNaN b && (a == b || (f.magnitude a == 0 && f.magnitude b == 0))

end BinaryFormat

end EngineBindings
