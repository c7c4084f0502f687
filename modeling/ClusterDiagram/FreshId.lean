/-!
# Fresh ids

An id that is taken is told apart by a numeric suffix, the least one from two on that is free.
-/

namespace ClusterDiagram
namespace FreshId

/-- An id with a numeric suffix. -/
def suffixed (base : String) (suffix : Nat) : String :=
  base ++ "-" ++ toString suffix

/-- The first free id with a suffix from `suffix` on, after at most `fuel` that are taken. -/
def search (base : String) (used : List String) : Nat → Nat → String
  | 0, suffix => suffixed base suffix
  | fuel + 1, suffix =>
      if used.contains (suffixed base suffix) then search base used fuel (suffix + 1)
      else suffixed base suffix

/-- The base itself when it is free, else the first free id with a suffix. -/
def fresh (base : String) (used : List String) : String :=
  if used.contains base then search base used used.length 2 else base

end FreshId
end ClusterDiagram
