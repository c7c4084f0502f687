import ClusterDiagram.Text.RangeTable

/-!
# Blanks, trimming and lines

White space is the Unicode class together with the four information separators. A text is cut
into lines at every separator below, a carriage return and a line feed in sequence being one cut.
-/

namespace ClusterDiagram
namespace Text

/-- Ranges of white space. -/
def blankRanges : RangeTable :=
  [(0x9, 0xd), (0x1c, 0x20), (0x85, 0x85), (0xa0, 0xa0), (0x1680, 0x1680), (0x2000, 0x200a),
    (0x2028, 0x2029), (0x202f, 0x202f), (0x205f, 0x205f), (0x3000, 0x3000)]

/-- Whether a character is white space. -/
def isBlank (c : Char) : Bool :=
  blankRanges.contains c.toNat

/-- Ranges of characters that end a line. -/
def lineBreakRanges : RangeTable :=
  [(0xa, 0xd), (0x1c, 0x1e), (0x85, 0x85), (0x2028, 0x2029)]

/-- Whether a character ends a line. -/
def isLineBreak (c : Char) : Bool :=
  lineBreakRanges.contains c.toNat

/-- Drop the characters of a class from both ends. -/
def trimWhile (p : Char → Bool) (cs : List Char) : List Char :=
  ((cs.dropWhile p).reverse.dropWhile p).reverse

/-- Drop white space from the end. -/
def trimRightChars (cs : List Char) : List Char :=
  (cs.reverse.dropWhile isBlank).reverse

/-- Drop white space from both ends. -/
def trimChars (cs : List Char) : List Char :=
  trimWhile isBlank cs

/-- Drop white space from both ends of a text. -/
def trim (text : String) : String :=
  String.ofList (trimChars text.toList)

/-- A text that counts as absent when it is empty. -/
def nonempty (text : Option String) : Option String :=
  text.filter fun value => !value.isEmpty

/-- Whether a character is a single or a double quote. -/
def isQuote (c : Char) : Bool :=
  c == '\'' || c == '"'

/-- Cut the rest of a text into lines, `line` being the reversed start of the current one. -/
def splitLinesFrom : List Char → List Char → List (List Char)
  | [], [] => []
  | line, [] => [line.reverse]
  | line, '\r' :: '\n' :: rest => line.reverse :: splitLinesFrom [] rest
  | line, c :: rest =>
      if isLineBreak c then line.reverse :: splitLinesFrom [] rest
      else splitLinesFrom (c :: line) rest

/-- The lines of a text, without their separators. A final separator opens no empty line. -/
def splitLines (text : String) : List (List Char) :=
  splitLinesFrom [] text.toList

/-- Write every line end as a line feed. -/
def joinLineEnds : List Char → List Char
  | [] => []
  | '\r' :: '\n' :: rest => '\n' :: joinLineEnds rest
  | c :: rest => (if c = '\r' then '\n' else c) :: joinLineEnds rest

/-- Write every maximal run of white space as one hyphen. `inBlank` holds inside a run. -/
def hyphenate (inBlank : Bool) : List Char → List Char
  | [] => []
  | c :: rest =>
      if isBlank c then
        if inBlank then hyphenate true rest else '-' :: hyphenate true rest
      else c :: hyphenate false rest

/-- Whether a list of characters begins with another, and what follows it. -/
def dropLead? : List Char → List Char → Option (List Char)
  | [], cs => some cs
  | _ :: _, [] => none
  | lead :: leads, c :: cs => if lead = c then dropLead? leads cs else none

/-- Whether a list of characters occurs inside another. -/
def occursIn (part : List Char) : List Char → Bool
  | [] => part.isEmpty
  | c :: cs => part.isPrefixOf (c :: cs) || occursIn part cs

end Text
end ClusterDiagram
