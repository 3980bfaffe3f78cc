import SwapRouter.Binary64.Shortest
import SwapRouter.Text.Quoted

/-!
# JSON values

Solutions, tables and requests arrive as JSON.  Whole numbers and binary64 numbers are
told apart, and the fields of an object keep the order in which they were written.

`Json.show` is the text by which a value is named inside a message.
-/

namespace SwapRouter

/-- A JSON value. -/
inductive Json where
  | null
  | bool (value : Bool)
  | int (value : Int)
  | float (value : Binary64)
  | str (text : String)
  | arr (items : List Json)
  | obj (fields : List (String × Json))
  deriving Inhabited

namespace Json

/-- Puts a field in its place: a known name keeps its position and takes the new value. -/
def put {α : Type} (fields : List (String × α)) (name : String) (value : α) : List (String × α) :=
  if fields.any (·.1 = name) then
    fields.map fun field => if field.1 = name then (name, value) else field
  else fields ++ [(name, value)]

/-- The field of an object; nothing for a value that is no object. -/
def field? (j : Json) (name : String) : Option Json :=
  match j with
  | .obj fields => fields.lookup name
  | _ => none

/-- The name of the kind of a value. -/
def kindName : Json → String
  | .null => "NoneType"
  | .bool _ => "bool"
  | .int _ => "int"
  | .float _ => "float"
  | .str _ => "str"
  | .arr _ => "list"
  | .obj _ => "dict"

/-! ## Values inside messages -/

/-- Joins texts by a separator. -/
def joined (separator : String) (texts : List String) : String :=
  String.intercalate separator texts

mutual

/-- The text of a value that stands inside another one: texts are quoted there. -/
def showInner : Json → String
  | .null => "None"
  | .bool value => if value then "True" else "False"
  | .int value => toString value
  | .float value => value.toText
  | .str text => Text.quoted text
  | .arr items => "[" ++ joined ", " (showItems items) ++ "]"
  | .obj fields => "\x7b" ++ joined ", " (showFields fields) ++ "\x7d"

/-- The texts of the items of a list. -/
def showItems : List Json → List String
  | [] => []
  | item :: items => showInner item :: showItems items

/-- The texts of the fields of an object. -/
def showFields : List (String × Json) → List String
  | [] => []
  | (name, value) :: fields => (Text.quoted name ++ ": " ++ showInner value) :: showFields fields

end

/-- The text by which a value is named in a message; a text stands for itself. -/
def «show» : Json → String
  | .str text => text
  | other => showInner other

end Json

end SwapRouter
