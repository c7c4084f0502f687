import ClusterDiagram.Decimal.Shortest
import ClusterDiagram.Scalar.Basic

/-!
# Doubles as scalars

Integer parts and floor quotients are exact. Lengths are computed with the squares split into
exact halves and summed with compensation, so they are off by less than one unit in the last place.
-/

namespace ClusterDiagram
namespace Binary

/-- The greatest integer not above a double. -/
def floor (x : Float) : Except ArithmeticError Int :=
  match DoubleValue.ofFloat x with
  | .notANumber => .error .notANumber
  | .infinite _ => .error .infinite
  | .finite negative significand exponent => .ok (DoubleValue.floor negative significand exponent)

/-- The least integer not below a double. -/
def ceil (x : Float) : Except ArithmeticError Int :=
  match DoubleValue.ofFloat x with
  | .notANumber => .error .notANumber
  | .infinite _ => .error .infinite
  | .finite negative significand exponent => .ok (DoubleValue.ceil negative significand exponent)

/-- The greatest integer not above the quotient of two doubles. An infinite dividend has none; an
infinite divisor leaves zero, or minus one where the signs differ. -/
def floorQuotient (x y : Float) : Except ArithmeticError Int :=
  match DoubleValue.ofFloat x, DoubleValue.ofFloat y with
  | .finite negative significand exponent, .finite negative' significand' exponent' =>
      if significand' = 0 then .error .divisionByZero
      else
        let (numerator, denominator) := DoubleValue.magnitude significand exponent
        let (numerator', denominator') := DoubleValue.magnitude significand' exponent'
        let dividend : Int := numerator * denominator'
        .ok (Int.fdiv (if negative == negative' then dividend else -dividend)
          (numerator' * denominator))
  | .finite negative significand _, .infinite negative' =>
      .ok (if significand = 0 ∨ negative = negative' then 0 else -1)
  | _, _ => .error .notANumber

/-- The nearest double to an integer, halves going to the even neighbour, unless it overflows. -/
def ofInt? (n : Int) : Option Float :=
  if Nat.pow 2 1024 - Nat.pow 2 970 ≤ n.natAbs then none else some (Float.ofInt n)

/-- A running sum that keeps what each addition rounds off. -/
structure Compensated where
  /-- The rounded sum. -/
  total : Float
  /-- What was rounded off. -/
  rest : Float

/-- Add a term not greater than the running sum. -/
def Compensated.add (sum : Compensated) (term : Float) : Compensated :=
  let total := sum.total + term
  ⟨total, sum.rest + ((sum.total - total) + term)⟩

/-- Split a double into two halves of at most 26 bits each. -/
def split (x : Float) : Float × Float :=
  let t := x * 134217729.0
  let high := t - (t - x)
  (high, x - high)

/-- The length of a vector whose greater component lies between a half and one. -/
def scaledLength (a b : Float) : Float :=
  let (aHigh, aLow) := split a
  let (bHigh, bLow) := split b
  let squares := ((⟨1.0, 0.0⟩ : Compensated).add (aHigh * aHigh)).add (bHigh * bHigh)
  let products := ((⟨squares.total, 0.0⟩ : Compensated).add (2.0 * aHigh * aLow)).add
    (2.0 * bHigh * bLow)
  let small := aLow * aLow + bLow * bLow
  let estimate := Float.sqrt (products.total - 1.0 + (squares.rest + products.rest + small))
  let (high, low) := split estimate
  let squares := (⟨products.total, squares.rest⟩ : Compensated).add (-high * high)
  let products := (⟨squares.total, products.rest⟩ : Compensated).add (-2.0 * high * low)
  let last := (⟨products.total, small⟩ : Compensated).add (-low * low)
  let error := last.total - 1.0 + (squares.rest + products.rest + last.rest)
  estimate + error / (2.0 * estimate)

/-- The length of the vector with the given components. -/
def hypot (x y : Float) : Float :=
  let a := x.abs
  let b := y.abs
  if a.isInf || b.isInf then 1.0 / 0.0
  else if a.isNaN || b.isNaN then 0.0 / 0.0
  else
    let greatest := if a < b then b else a
    if greatest == 0.0 then 0.0
    else
      let exponent := greatest.frExp.2
      if -1023 ≤ exponent then
        let scale := Float.scaleB 1.0 (-exponent)
        scaledLength (a * scale) (b * scale) / scale
      else
        let u := a / greatest
        let v := b / greatest
        greatest * Float.sqrt (u * u + v * v)

/-- The unit vector in the direction of the given components. -/
def heading (x y : Float) : Float × Float :=
  let angle := Float.atan2 y x
  (Float.cos angle, Float.sin angle)

end Binary

instance : Scalar Float where
  natCast n := Float.ofNat n
  intCast n := Float.ofInt n
  decideLT := inferInstance
  decideLE := inferInstance
  floor := Binary.floor
  ceil := Binary.ceil
  floorQuotient := Binary.floorQuotient
  infinity := 1.0 / 0.0
  isInfinite x := x.isInf
  hypot := Binary.hypot
  heading := Binary.heading
  ofFloat x := x
  ofInt? := Binary.ofInt?
  toText := Decimal.ofFloat

end ClusterDiagram
