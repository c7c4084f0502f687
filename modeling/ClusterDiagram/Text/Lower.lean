import ClusterDiagram.Text.Blank
import ClusterDiagram.Text.CaseTable

/-!
# Lower case

Every character has one lower-case form, apart from the dotted capital I, which gives two
characters, and the capital sigma, which has a form of its own at the end of a word.
-/

namespace ClusterDiagram
namespace Text

/-- The lower-case form of a character away from any context. -/
def lowerChar (c : Char) : List Char :=
  if c = 'İ' then ['i', '\u0307']
  else [Char.ofNat (Int.toNat (c.toNat + caseShift caseRuns c.toNat))]

/-- Whether the nearest character that is not skipped is a letter with case. -/
def meetsCased (cs : List Char) : Bool :=
  match cs.dropWhile isCaseIgnorable with
  | [] => false
  | c :: _ => isCased c

/-- Lower the rest of a text; `before` is the part already read, reversed. -/
def lowerFrom (before : List Char) : List Char → List Char
  | [] => []
  | c :: rest =>
      (if c = 'Σ' then
        if meetsCased before && !meetsCased rest then ['ς'] else ['σ']
      else lowerChar c) ++ lowerFrom (c :: before) rest

/-- The lower-case form of a list of characters. -/
def lowerChars (cs : List Char) : List Char :=
  lowerFrom [] cs

/-- The lower-case form of a text. -/
def lower (text : String) : String :=
  String.ofList (lowerChars text.toList)

/-- The key under which two texts are the same: trimmed and in lower case. -/
def foldKey (text : String) : String :=
  lower (trim text)

/-- The identifier form of a text: trimmed, in lower case, white space written as hyphens. -/
def slug (text : String) : String :=
  String.ofList (hyphenate false (foldKey text).toList)

end Text
end ClusterDiagram
