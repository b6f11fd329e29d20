import EngineBindings.Number.Binary
import EngineBindings.Text.Pieces

/-!
# Decimal numbers

Decimal numbers as they are written, the binary value nearest to one, and the shortest decimal
number that reads back as a binary value.
-/

namespace EngineBindings

/-- The number `digits · 10 ^ exponent`, with a sign. -/
structure Decimal where
  negative : Bool
  digits : Nat
  exponent : Int
  deriving DecidableEq, Inhabited

namespace Decimal

/-! ## Reading -/

/-- The number that digits are. -/
def ofDigits (cs : List Char) : Nat :=
  cs.foldl (fun n c => 10 * n + (c.toNat - '0'.toNat)) 0

/-- A sign, if a text starts with one, and what follows it. -/
def sign (cs : List Char) : Bool × List Char :=
  match cs with
  | '-' :: rest => (true, rest)
  | '+' :: rest => (false, rest)
  | _ => (false, cs)

/-- The digits that a text starts with, and what follows them. -/
def digitRun (cs : List Char) : List Char × List Char :=
  (cs.takeWhile Char.isDigit, cs.dropWhile Char.isDigit)

/-- A whole number with a sign, to the end of a text. -/
def wholeNumber? (cs : List Char) : Option Int :=
  let (negative, rest) := sign cs
  match digitRun rest with
  | (first :: more, []) =>
    let n : Int := ofDigits (first :: more)
    some (if negative then -n else n)
  | _ => none

/-- An exponent, to the end of a text that may have none. -/
def exponent? : List Char → Option Int
  | [] => some 0
  | c :: rest => if c = 'e' || c = 'E' then wholeNumber? rest else none

/-- The digits after a point, if there is one, and what follows them. -/
def fractionRun : List Char → List Char × List Char
  | '.' :: rest => digitRun rest
  | cs => ([], cs)

/-- A decimal number: a sign, digits with a point somewhere among them, and an exponent, of which
only the digits are always there. -/
def ofText? (s : String) : Option Decimal :=
  let (negative, rest) := sign s.toList
  let (whole, rest) := digitRun rest
  let (fraction, rest) := fractionRun rest
  match whole ++ fraction with
  | [] => none
  | digits =>
    (exponent? rest).map fun e => ⟨negative, ofDigits digits, e - (fraction.length : Int)⟩

/-- The whole number that a text is, if it is written with digits alone and a sign in front. -/
def intOfText? (s : String) : Option Int :=
  wholeNumber? s.toList

/-- The bits of the value of a format nearest to a decimal number.  Numbers beyond any value of the
formats at hand are not computed: they are infinite or zero. -/
def toBits (d : Decimal) (f : BinaryFormat) : Nat :=
  let places : Int := (toString d.digits).length + d.exponent
  let magnitude :=
    if d.digits = 0 then 0
    else if (f.depth : Int) < places then f.infinity
    else if places < -(f.depth : Int) then 0
    else if 0 ≤ d.exponent then f.ofQuotient (d.digits * Nat.pow 10 d.exponent.toNat) 1
    else f.ofQuotient d.digits (Nat.pow 10 (-d.exponent).toNat)
  (if d.negative then f.signBit else 0) + magnitude

/-! ## The shortest number that reads back -/

/-- The exact value and the bounds of what rounds to it, in quarters of the least positive value:
the lower bound, the value, the upper bound, and whether the bounds themselves round to it. -/
def interval (f : BinaryFormat) (magnitude : Nat) : Nat × Nat × Nat × Bool :=
  let (significand, exponent) := f.decode magnitude
  let unit := Nat.pow 2 exponent
  let below := if significand = f.leading && 0 < exponent then unit else 2 * unit
  (4 * significand * unit - below, 4 * significand * unit, 4 * significand * unit + 2 * unit,
    significand % 2 == 0)

/-- Of the two multiples of a step around a value, the nearer one that lies within the bounds.  The
result counts steps. -/
def nearest? (low value high : Nat) (inclusive : Bool) (stepNum stepDen : Nat) : Option Nat :=
  let down := value * stepDen / stepNum
  let within (n : Nat) : Bool :=
    let scaled := n * stepNum
    if inclusive then low * stepDen ≤ scaled && scaled ≤ high * stepDen
    else low * stepDen < scaled && scaled < high * stepDen
  let nearerDown := 2 * (value * stepDen - down * stepNum) < stepNum
  if within down && (nearerDown || !within (down + 1)) then some down
  else if within (down + 1) then some (down + 1)
  else none

/-- The decimal number with the fewest digits within bounds, tried from a great power of ten down.
All numbers are quarters of the least positive value, which is one of `units` in a whole. -/
def shortestFrom (low value high : Nat) (inclusive : Bool) (units : Nat) : Nat → Int → Nat × Int
  | 0, power => (0, power)
  | fuel + 1, power =>
    let (stepNum, stepDen) :=
      if 0 ≤ power then (units * Nat.pow 10 power.toNat, 1) else (units, Nat.pow 10 (-power).toNat)
    match nearest? low value high inclusive stepNum stepDen with
    | some (n + 1) => (n + 1, power)
    | _ => shortestFrom low value high inclusive units fuel (power - 1)

/-- The shortest decimal number that reads back as bits of a format, the nearest of those of the
same length. -/
def shortest (f : BinaryFormat) (bits : Nat) : Decimal :=
  let negative := f.isNegative bits
  match f.magnitude bits with
  | 0 => ⟨negative, 0, 0⟩
  | magnitude =>
    let (low, value, high, inclusive) := interval f magnitude
    let (digits, exponent) := shortestFrom low value high inclusive (4 * Nat.pow 2 f.depth)
      (2 * f.depth + 2) (f.depth : Int)
    ⟨negative, digits, exponent⟩

/-- A decimal number without an exponent; a whole number has a zero after its point. -/
def positional (d : Decimal) : String :=
  let digits := (toString d.digits).toList
  let unsigned :=
    if 0 ≤ d.exponent then digits ++ List.replicate d.exponent.toNat '0' ++ ['.', '0']
    else
      let places := (-d.exponent).toNat
      let padded := List.replicate (places + 1 - digits.length) '0' ++ digits
      padded.take (padded.length - places) ++ '.' :: padded.drop (padded.length - places)
  String.ofList (if d.negative then '-' :: unsigned else unsigned)

end Decimal

end EngineBindings
