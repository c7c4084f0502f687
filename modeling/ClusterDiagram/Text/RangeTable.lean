/-!
# Sorted tables of code point ranges

A character class is a sorted list of disjoint closed ranges of code points. Membership stops at
the first range that begins beyond the character, so the ASCII part of every class is read first.
-/

namespace ClusterDiagram
namespace Text

/-- A character class as sorted, disjoint, closed ranges of code points. -/
abbrev RangeTable := List (Nat × Nat)

namespace RangeTable

/-- Whether some range of the table holds the code point. -/
def contains : RangeTable → Nat → Bool
  | [], _ => false
  | (first, last) :: rest, code =>
      if code < first then false else if code ≤ last then true else contains rest code

end RangeTable

end Text
end ClusterDiagram
