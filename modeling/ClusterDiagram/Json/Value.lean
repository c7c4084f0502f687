import ClusterDiagram.Scalar.Basic
import ClusterDiagram.Text.Printable

/-!
# Documents

A document is a tree of lists and objects over texts, truth values and numbers. Integers are exact
and kept apart from other numbers, which are scalars. The fields of an object keep the order of
their first mention.
-/

namespace ClusterDiagram

/-- A document whose fractional numbers are of type `α`. -/
inductive Json (α : Type) where
  /-- The absent value. -/
  | null
  /-- A truth value. -/
  | bool (value : Bool)
  /-- An integer of any size. -/
  | int (value : Int)
  /-- A number written with a point or an exponent. -/
  | real (value : α)
  /-- A text. -/
  | text (value : String)
  /-- A list of documents. -/
  | list (items : List (Json α))
  /-- An object with its fields in order. -/
  | object (fields : List (String × Json α))
  deriving Inhabited

namespace Json

variable {α β : Type}

mutual

/-- Apply a function to every fractional number of a document. -/
def map (f : α → β) : Json α → Json β
  | .null => .null
  | .bool value => .bool value
  | .int value => .int value
  | .real value => .real (f value)
  | .text value => .text value
  | .list items => .list (mapItems f items)
  | .object fields => .object (mapFields f fields)

/-- Apply a function to every fractional number of some documents. -/
def mapItems (f : α → β) : List (Json α) → List (Json β)
  | [] => []
  | item :: items => map f item :: mapItems f items

/-- Apply a function to every fractional number of some fields. -/
def mapFields (f : α → β) : List (String × Json α) → List (String × Json β)
  | [] => []
  | (key, value) :: fields => (key, map f value) :: mapFields f fields

end

/-- The value of a field. -/
def find? (key : String) (fields : List (String × Json α)) : Option (Json α) :=
  fields.lookup key

/-- The value of a field, the absent value where there is none. -/
def findD (key : String) (fields : List (String × Json α)) : Json α :=
  (fields.lookup key).getD .null

/-- A text, or the absent value. -/
def ofText? : Option String → Json α
  | none => .null
  | some value => .text value

variable [Scalar α]

/-- Whether a document counts as nothing: absent, false, zero or empty. -/
def isVoid : Json α → Bool
  | .null => true
  | .bool value => !value
  | .int value => value == 0
  | .real value => Scalar.isZero value
  | .text value => value.isEmpty
  | .list items => items.isEmpty
  | .object fields => fields.isEmpty

/-- The name of a document's kind in messages. -/
def kind : Json α → String
  | .null => "NoneType"
  | .bool _ => "bool"
  | .int _ => "int"
  | .real _ => "float"
  | .text _ => "str"
  | .list _ => "list"
  | .object _ => "dict"

mutual

/-- A document shown inside another one. -/
def shown : Json α → String
  | .null => "None"
  | .bool value => if value then "True" else "False"
  | .int value => toString value
  | .real value => Scalar.toText value
  | .text value => Text.showQuoted value
  | .list items => "[" ++ shownItems items ++ "]"
  | .object fields => "\x7b" ++ shownFields fields ++ "\x7d"

/-- The items of a list, separated by commas. -/
def shownItems : List (Json α) → String
  | [] => ""
  | [item] => shown item
  | item :: next :: items => shown item ++ ", " ++ shownItems (next :: items)

/-- The fields of an object, separated by commas. -/
def shownFields : List (String × Json α) → String
  | [] => ""
  | [(key, value)] => Text.showQuoted key ++ ": " ++ shown value
  | (key, value) :: next :: fields =>
      Text.showQuoted key ++ ": " ++ shown value ++ ", " ++ shownFields (next :: fields)

end

/-- A document as a text: a text is itself, anything else is shown. -/
def asText : Json α → String
  | .text value => value
  | document => document.shown

end Json

end ClusterDiagram
