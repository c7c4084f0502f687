import ClusterDiagram.Scalar.Binary
import ClusterDiagram.Text.Printable

/-!
# Tokens

A token tells apart ids that are made from one text. The default token joins the time in whole
milliseconds with twelve random bits.
-/

namespace ClusterDiagram
namespace Token

/-- The integer part of a double. -/
def wholePart (x : Float) : Except ArithmeticError Int :=
  if x < 0.0 then Binary.ceil x else Binary.floor x

/-- The token for a time in seconds and some random bits, of which twelve count. -/
def ofTime (seconds : Float) (bits : Nat) : Except ArithmeticError String := do
  let milliseconds ← wholePart (seconds * 1000.0)
  return toString milliseconds ++ "-" ++ String.ofList (Text.hexDigits 3 (bits % 4096))

/-- Tokens for one moment after the other, a millisecond apart, with bits that step on from a seed. -/
def sequence (milliseconds seed index : Nat) : String :=
  toString (milliseconds + index) ++ "-" ++
    String.ofList (Text.hexDigits 3 ((seed + 1237 * index) % 4096))

/-- Tokens that are drawn in turn from a list, again and again; an empty list stands for one
token. -/
def cycle (tokens : List String) (index : Nat) : String :=
  (tokens[index % tokens.length]?).getD "t"

end Token
end ClusterDiagram
