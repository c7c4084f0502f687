/-!
# The exact value of a double

A finite double is a natural number times a power of two. Every exact operation on doubles, such
as rounding to an integer or printing, reads the value off this form.
-/

namespace ClusterDiagram

/-- What the bits of a double say. -/
inductive DoubleValue where
  /-- Not a number. -/
  | notANumber
  /-- Beyond every finite value, on the given side. -/
  | infinite (negative : Bool)
  /-- The number `significand * 2 ^ exponent`, with its sign. -/
  | finite (negative : Bool) (significand : Nat) (exponent : Int)
  deriving DecidableEq, Repr

namespace DoubleValue

/-- Read the sign, exponent and fraction fields of a double. -/
def ofFloat (x : Float) : DoubleValue :=
  let bits := x.toBits.toNat
  let negative : Bool := bits / Nat.pow 2 63 == 1
  let exponent : Nat := bits / Nat.pow 2 52 % Nat.pow 2 11
  let fraction := bits % Nat.pow 2 52
  if exponent = 2047 then
    if fraction = 0 then .infinite negative else .notANumber
  else if exponent = 0 then .finite negative fraction (-1074)
  else .finite negative (fraction + Nat.pow 2 52) ((exponent : Int) - 1075)

/-- Numerator and denominator of a magnitude `significand * 2 ^ exponent`. -/
def magnitude (significand : Nat) (exponent : Int) : Nat × Nat :=
  if 0 ≤ exponent then (significand * Nat.pow 2 exponent.toNat, 1)
  else (significand, Nat.pow 2 (-exponent).toNat)

/-- The greatest integer not above a signed magnitude. -/
def floor (negative : Bool) (significand : Nat) (exponent : Int) : Int :=
  let (numerator, denominator) := magnitude significand exponent
  if negative then -((numerator + denominator - 1) / denominator : Nat)
  else (numerator / denominator : Nat)

/-- The least integer not below a signed magnitude. -/
def ceil (negative : Bool) (significand : Nat) (exponent : Int) : Int :=
  -floor (!negative) significand exponent

end DoubleValue

end ClusterDiagram
