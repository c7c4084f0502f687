import ClusterDiagram.Assoc
import ClusterDiagram.Text.Lower
import ClusterDiagram.Text.WordTable

/-!
# Attributes

An edge or a node line may end in attributes, `key=value` pairs between square brackets. A value
between quotes may hold anything; a backslash in it lets a quote or a backslash stand for itself.
A value without quotes ends at the next comma. Quoting a value and reading it back gives the value.
-/

namespace ClusterDiagram
namespace Attributes

/-- Whether a character starts a key. -/
def isKeyStart (c : Char) : Bool :=
  c.isAlpha || c == '_'

/-- Whether a character continues a key. -/
def isKeyChar (c : Char) : Bool :=
  c == '-' || Text.isWord c

/-- Split a quoted value, its opening quote already read, from what follows its closing quote. A
backslash takes the next character with it, which may not be a line feed. -/
def takeQuoted? (quote : Char) : List Char → Option (List Char × List Char)
  | [] => none
  | '\\' :: [] => none
  | '\\' :: c :: rest =>
      if c = '\n' then none
      else (takeQuoted? quote rest).map fun taken => ('\\' :: c :: taken.1, taken.2)
  | c :: rest =>
      if c = quote then some ([], rest)
      else (takeQuoted? quote rest).map fun taken => (c :: taken.1, taken.2)

/-- Drop the backslash before every quote or backslash. -/
def unescape : List Char → List Char
  | [] => []
  | '\\' :: c :: rest =>
      if c = '\\' ∨ Text.isQuote c then c :: unescape rest else '\\' :: unescape (c :: rest)
  | c :: rest => c :: unescape rest

/-- Read a value without quotes: up to the next comma, outer white space and quotes dropped. -/
def takeBare (cs : List Char) : List Char × List Char :=
  (Text.trimWhile Text.isQuote (Text.trimChars (cs.takeWhile (· != ','))), cs.dropWhile (· != ','))

/-- Read a value. A quote that is never closed belongs to a value without quotes. -/
def takeValue (cs : List Char) : List Char × List Char :=
  match cs with
  | [] => ([], [])
  | c :: rest =>
      if Text.isQuote c then
        match takeQuoted? c rest with
        | some (value, rest) => (unescape value, rest)
        | none => takeBare (c :: rest)
      else takeBare (c :: rest)

/-- Read the pair that starts at the first character, and what follows it. -/
def pair? : List Char → Option ((String × String) × List Char)
  | [] => none
  | c :: cs =>
      if isKeyStart c then
        match (cs.dropWhile isKeyChar).dropWhile Text.isBlank with
        | '=' :: rest =>
            let (value, rest) := takeValue (rest.dropWhile Text.isBlank)
            let key := Text.lowerChars (c :: cs.takeWhile isKeyChar)
            some ((String.ofList key, String.ofList (Text.trimChars value)), rest)
        | _ => none
      else none

theorem length_dropWhile_le {α : Type} (p : α → Bool) (xs : List α) :
    (xs.dropWhile p).length ≤ xs.length :=
  (List.dropWhile_sublist p).length_le

theorem length_takeQuoted? {quote : Char} {cs value rest : List Char}
    (taken : takeQuoted? quote cs = some (value, rest)) : rest.length ≤ cs.length := by
  fun_induction takeQuoted? quote cs generalizing value rest with
  | case1 => simp at taken
  | case2 => simp at taken
  | case3 => simp at taken
  | case4 c cs _ ih =>
      obtain ⟨inner, found, same⟩ := Option.map_eq_some_iff.mp taken
      obtain ⟨-, rfl⟩ := Prod.mk.inj same
      have := ih found
      simp only [List.length_cons]
      omega
  | case5 =>
      obtain ⟨-, rfl⟩ := Prod.mk.inj (Option.some.inj taken)
      simp
  | case6 c cs _ _ _ ih =>
      obtain ⟨inner, found, same⟩ := Option.map_eq_some_iff.mp taken
      obtain ⟨-, rfl⟩ := Prod.mk.inj same
      have := ih found
      simp only [List.length_cons]
      omega

theorem length_takeValue (cs : List Char) : (takeValue cs).2.length ≤ cs.length := by
  unfold takeValue
  split
  · simp
  · rename_i c rest
    split
    · split
      · rename_i value after taken
        have := length_takeQuoted? taken
        simp only [List.length_cons]
        omega
      · exact length_dropWhile_le _ _
    · exact length_dropWhile_le _ _

theorem length_pair? {cs rest : List Char} {pair : String × String}
    (read : pair? cs = some (pair, rest)) : rest.length < cs.length := by
  cases cs with
  | nil => simp [pair?] at read
  | cons c cs =>
      simp only [pair?] at read
      split at read
      · split at read
        · rename_i after opened
          obtain ⟨-, rfl⟩ := Prod.mk.inj (Option.some.inj read)
          have value := length_takeValue (after.dropWhile Text.isBlank)
          have blank := length_dropWhile_le Text.isBlank after
          have key := length_dropWhile_le Text.isBlank (cs.dropWhile isKeyChar)
          have word := length_dropWhile_le isKeyChar cs
          rw [opened] at key
          simp only [List.length_cons] at key ⊢
          omega
        · simp at read
      · simp at read

/-- Read every pair of a text in order, passing over what is none. -/
def pairs (cs : List Char) : List (String × String) :=
  match _read : pair? cs with
  | some (pair, rest) => pair :: pairs rest
  | none =>
      match cs with
      | [] => []
      | _ :: rest => pairs rest
termination_by cs.length
decreasing_by
  · exact length_pair? _read
  · simp

/-- Read attributes. A key that is given twice keeps its place and takes the later value. -/
def ofChars (cs : List Char) : List (String × String) :=
  Assoc.ofEntries (pairs cs)

/-- Read the attributes of a text. -/
def ofText (text : String) : List (String × String) :=
  ofChars text.toList

/-- The value of an attribute, absent when it is empty. -/
def find? (key : String) (attributes : List (String × String)) : Option String :=
  (attributes.lookup key).filter fun value => !value.isEmpty

/-- The value of the first of two attributes that has one. -/
def findEither? (key other : String) (attributes : List (String × String)) : Option String :=
  (find? key attributes).or (find? other attributes)

/-- A character of a value between single quotes. -/
def escapeChar (c : Char) : List Char :=
  if c = '\\' ∨ c = '\'' then ['\\', c] else [c]

/-- Quote a value: single quotes when nothing in it needs escaping, double quotes when only single
quotes do, else single quotes with escapes. -/
def quoteChars (value : List Char) : List Char :=
  if !value.contains '\\' && !value.contains '\'' then '\'' :: value ++ ['\'']
  else if !value.contains '\\' && !value.contains '"' then '"' :: value ++ ['"']
  else '\'' :: value.flatMap escapeChar ++ ['\'']

/-- Quote a value so that reading gives it back. -/
def quote (value : String) : String :=
  String.ofList (quoteChars value.toList)

end Attributes
end ClusterDiagram
