import ClusterDiagram.Decimal.Double

/-!
# The shortest text of a double

A double is written with the fewest decimal digits that read back as the same double, the nearest
such number among those of that length. Numbers from `1e-4` up to `1e16` are written without an
exponent.
-/

namespace ClusterDiagram
namespace Decimal

/-- Digits of a positive decimal number: `digits * 10 ^ exponent`. -/
structure Scaled where
  /-- Significant digits, as one natural number. -/
  digits : Nat
  /-- Power of ten of the last digit. -/
  exponent : Int
  deriving DecidableEq, Repr

/-- Least number of places, at most `fuel` more, that lift `numerator / denominator` to one. -/
def leadingZeros (numerator denominator : Nat) : Nat → Nat
  | 0 => 0
  | fuel + 1 =>
      if denominator ≤ numerator then 0
      else leadingZeros (numerator * 10) denominator fuel + 1

/-- The power of ten just above a positive quotient: `10 ^ (p - 1) ≤ quotient < 10 ^ p`. -/
def decimalOrder (numerator denominator : Nat) : Int :=
  if denominator ≤ numerator then ((Nat.toDigits 10 (numerator / denominator)).length : Int)
  else 1 - (leadingZeros numerator denominator 400 : Int)

/-- The candidates `floor` and `floor + 1` of the quotient on the grid of spacing `10 ^ exponent`,
kept when they lie between the two bounds, the nearer first and a tie going to the even one. The
quotient and its bounds are numerators over one denominator; `closed` admits the bounds. -/
def nearestOnGrid? (low value high denominator : Nat) (closed : Bool) (exponent : Int) :
    Option Scaled :=
  let up := if 0 ≤ exponent then 1 else Nat.pow 10 (-exponent).toNat
  let down := if 0 ≤ exponent then Nat.pow 10 exponent.toNat else 1
  let unit := denominator * down
  let below := value * up / unit
  let inside (candidate : Nat) : Bool :=
    let point := candidate * unit
    if closed then low * up ≤ point && point ≤ high * up
    else low * up < point && point < high * up
  let distanceBelow := value * up - below * unit
  let distanceAbove := (below + 1) * unit - value * up
  let belowFirst := distanceBelow < distanceAbove ||
    (distanceBelow == distanceAbove && below % 2 == 0)
  let ordered := if belowFirst then [below, below + 1] else [below + 1, below]
  (ordered.find? inside).map fun digits => ⟨digits, exponent⟩

/-- The first grid, coarsest first, that has a number between the bounds. -/
def shortestFrom (low value high denominator : Nat) (closed : Bool) (exponent : Int) :
    Nat → Scaled
  | 0 => ⟨0, 0⟩
  | fuel + 1 =>
      match nearestOnGrid? low value high denominator closed exponent with
      | some scaled => scaled
      | none => shortestFrom low value high denominator closed (exponent - 1) fuel

/-- The shortest decimal number that reads back as `significand * 2 ^ exponent`. -/
def shortest (significand : Nat) (exponent : Int) : Scaled :=
  let (numerator, denominator) := DoubleValue.magnitude significand exponent
  let unit := (DoubleValue.magnitude 1 exponent).1
  let low := if significand = Nat.pow 2 52 ∧ -1074 < exponent then 4 * numerator - unit
    else 4 * numerator - 2 * unit
  let order := decimalOrder numerator denominator
  shortestFrom low (4 * numerator) (4 * numerator + 2 * unit) (4 * denominator)
    (significand % 2 = 0) (order - 1) 18

/-- Write digits with the point or the exponent where the format puts it. -/
def Scaled.toText (scaled : Scaled) : String :=
  let digits := (toString scaled.digits).toList.reverse.dropWhile (· == '0') |>.reverse
  let order : Int := scaled.exponent + (toString scaled.digits).length
  if -4 < order ∧ order ≤ 0 then
    "0." ++ String.ofList (List.replicate (-order).toNat '0' ++ digits)
  else if 0 < order ∧ order ≤ 16 then
    let whole := order.toNat
    if digits.length ≤ whole then
      String.ofList (digits ++ List.replicate (whole - digits.length) '0') ++ ".0"
    else String.ofList (digits.take whole ++ '.' :: digits.drop whole)
  else
    let head := match digits with
      | [] => ['0']
      | [d] => [d]
      | d :: rest => d :: '.' :: rest
    let power := order - 1
    let size := toString power.natAbs
    String.ofList head ++ (if power < 0 then "e-" else "e+") ++
      (if size.length < 2 then "0" ++ size else size)

/-- The shortest text of a double. -/
def ofFloat (x : Float) : String :=
  match DoubleValue.ofFloat x with
  | .notANumber => "nan"
  | .infinite negative => if negative then "-inf" else "inf"
  | .finite negative significand exponent =>
      (if negative then "-" else "") ++
        if significand = 0 then "0.0" else (shortest significand exponent).toText

end Decimal
end ClusterDiagram
