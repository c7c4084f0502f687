import ClusterDiagram.Text.Blank
import ClusterDiagram.Text.WordTable

/-!
# Reading decimal numbers

A number is an optional sign and either digits with an optional point and exponent or a word for
infinity or for no number. Digits of every script count, white space around the number is skipped
and a single underscore may stand between two digits.
-/

namespace ClusterDiagram
namespace Decimal

open Text (digitValue?)

/-- The double nearest to `digits * 10 ^ exponent`. Powers far outside the range of doubles are
settled without computing them. -/
def toFloat (digits : Nat) (exponent : Int) : Float :=
  if digits = 0 then 0.0
  else
    let order := exponent + (Nat.toDigits 10 digits).length
    if 400 < order then 1.0 / 0.0
    else if order < -400 then 0.0
    else Float.ofScientific digits (exponent < 0) exponent.natAbs

/-- Take the digits at the start, each underscore standing between two of them. The result is the
value continued from `value`, the number of digits and the rest. -/
def takeDigits (value count : Nat) : List Char → Nat × Nat × List Char
  | [] => (value, count, [])
  | '_' :: c :: rest =>
      match digitValue? c with
      | some digit =>
          if count = 0 then (value, count, '_' :: c :: rest)
          else takeDigits (value * 10 + digit) (count + 1) rest
      | none => (value, count, '_' :: c :: rest)
  | c :: rest =>
      match digitValue? c with
      | some digit => takeDigits (value * 10 + digit) (count + 1) rest
      | none => (value, count, c :: rest)

/-- Split an optional sign off the start; the flag tells a minus. -/
def takeSign : List Char → Bool × List Char
  | '-' :: rest => (true, rest)
  | '+' :: rest => (false, rest)
  | cs => (false, cs)

/-- Read the exponent part that must fill the rest of a number. -/
def readExponent? : List Char → Option Int
  | [] => some 0
  | mark :: rest =>
      if mark = 'e' ∨ mark = 'E' then
        let (negative, digits) := takeSign rest
        match takeDigits 0 0 digits with
        | (value, count, []) =>
            if count = 0 then none else some (if negative then -value else value)
        | _ => none
      else none

/-- Read the digits of a number without its sign. -/
def readUnsigned? (cs : List Char) : Option Float :=
  let (whole, wholeCount, rest) := takeDigits 0 0 cs
  match rest with
  | '.' :: rest =>
      let (digits, count, rest) := takeDigits whole 0 rest
      if wholeCount + count = 0 then none
      else (readExponent? rest).map fun exponent => toFloat digits (exponent - count)
  | rest =>
      if wholeCount = 0 then none
      else (readExponent? rest).map fun exponent => toFloat whole exponent

/-- Read a number from characters that hold nothing else. -/
def readChars? (cs : List Char) : Option Float :=
  let (negative, body) := takeSign cs
  let word := body.map Char.toLower
  let magnitude :=
    if word = "inf".toList ∨ word = "infinity".toList then some (1.0 / 0.0)
    else if word = "nan".toList then some (0.0 / 0.0)
    else readUnsigned? body
  magnitude.map fun x => if negative then -x else x

/-- Read a number from a text, white space around it aside. -/
def read? (text : String) : Option Float :=
  readChars? (Text.trimChars text.toList)

end Decimal
end ClusterDiagram
