/-!
# Association lists

Pairs of keys and values in the order in which the keys were first set. A key that is set again
keeps its place and takes the new value.
-/

namespace ClusterDiagram
namespace Assoc

variable {κ ν : Type} [BEq κ]

/-- Set the value of a key. -/
def put (key : κ) (value : ν) : List (κ × ν) → List (κ × ν)
  | [] => [(key, value)]
  | (other, old) :: pairs =>
      if other == key then (other, value) :: pairs else (other, old) :: put key value pairs

/-- Set the values of some keys, one after the other. -/
def putAll (pairs : List (κ × ν)) (entries : List (κ × ν)) : List (κ × ν) :=
  entries.foldl (fun pairs entry => put entry.1 entry.2 pairs) pairs

/-- The pairs with every key set in order. -/
def ofEntries (entries : List (κ × ν)) : List (κ × ν) :=
  putAll [] entries

/-- Keep a value that a key already has, or set it. -/
def putNew (key : κ) (value : ν) (pairs : List (κ × ν)) : List (κ × ν) :=
  if (pairs.lookup key).isSome then pairs else pairs ++ [(key, value)]

end Assoc
end ClusterDiagram
