/-!
# Scalars

Coordinates, sizes and lengths are scalars. The geometry of a diagram is written once over the
operations below; a drawing program computes with doubles, a theory with an ordered field. Order
comparisons decide everything, so minimum and maximum keep their first argument whenever the second
is not strictly better.
-/

namespace ClusterDiagram

/-- Why a scalar has no integer part or a quotient no value. -/
inductive ArithmeticError where
  /-- The scalar is not a number. -/
  | notANumber
  /-- The scalar is infinite. -/
  | infinite
  /-- The divisor is zero. -/
  | divisionByZero
  /-- The integer is beyond the range of scalars. -/
  | integerTooLarge
  deriving DecidableEq, Repr

/-- The text of an arithmetic error. -/
def ArithmeticError.message : ArithmeticError → String
  | .notANumber => "cannot convert float NaN to integer"
  | .infinite => "cannot convert float infinity to integer"
  | .divisionByZero => "float division by zero"
  | .integerTooLarge => "int too large to convert to float"

/-- The arithmetic that diagrams are drawn with. -/
class Scalar (α : Type) extends Add α, Sub α, Mul α, Div α, Neg α, NatCast α, IntCast α,
    LT α, LE α, BEq α where
  /-- Strict comparison is decidable. -/
  decideLT : DecidableLT α
  /-- Comparison is decidable. -/
  decideLE : DecidableLE α
  /-- The greatest integer not above a scalar. -/
  floor : α → Except ArithmeticError Int
  /-- The least integer not below a scalar. -/
  ceil : α → Except ArithmeticError Int
  /-- The greatest integer not above the quotient of two scalars. -/
  floorQuotient : α → α → Except ArithmeticError Int
  /-- The value above all others, where there is one. -/
  infinity : α
  /-- Whether a scalar is `infinity` or its opposite. -/
  isInfinite : α → Bool
  /-- The length of the vector with the given components. -/
  hypot : α → α → α
  /-- The unit vector in the direction of the given components; the first axis for zero. -/
  heading : α → α → α × α
  /-- The scalar that a double denotes. -/
  ofFloat : Float → α
  /-- The scalar nearest to an integer, unless the integer is beyond their range. -/
  ofInt? : Int → Option α
  /-- The shortest decimal text of a scalar. -/
  toText : α → String

namespace Scalar

variable {α : Type} [Scalar α]

instance : DecidableLT α := decideLT

instance : DecidableLE α := decideLE

/-- The smaller of two scalars, the first one unless the second is strictly smaller. -/
@[specialize] def min (a b : α) : α := if b < a then b else a

/-- The greater of two scalars, the first one unless the second is strictly greater. -/
@[specialize] def max (a b : α) : α := if a < b then b else a

/-- The magnitude of a scalar. -/
@[specialize] def abs (a : α) : α := if a < (0 : Nat) then -a else a

/-- Whether a scalar is zero. -/
@[specialize] def isZero (a : α) : Bool := a == ((0 : Nat) : α)

/-- Write either zero as the positive one. -/
@[specialize] def normalizeZero (a : α) : α := if isZero a then ((0 : Nat) : α) else a

/-- The sum of a list of scalars, from the left. -/
@[specialize] def sum (terms : List α) : α := terms.foldl (· + ·) ((0 : Nat) : α)

/-- The least of the scalars met so far, `none` standing for a start above every scalar. -/
@[specialize] def lowest (least : Option α) (a : α) : Option α :=
  match least with
  | none => if isInfinite a && !decide (a < (0 : Nat)) || !(a == a) then none else some a
  | some b => some (min b a)

/-- The greatest of the scalars met so far, `none` standing for a start below every scalar. -/
@[specialize] def highest (greatest : Option α) (a : α) : Option α :=
  match greatest with
  | none => if isInfinite a && decide (a < (0 : Nat)) || !(a == a) then none else some a
  | some b => some (max b a)

/-- Whether a length is strictly below a bound; an absent bound lies above every finite length. -/
@[specialize] def isBelow (bound : Option α) (a : α) : Bool :=
  match bound with
  | none => !isInfinite a && a == a
  | some b => decide (a < b)

end Scalar

end ClusterDiagram
