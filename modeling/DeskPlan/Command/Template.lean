import DeskPlan.Json.Value
import DeskPlan.NameMap
import DeskPlan.Text.Replace

/-!
# `DeskPlan.Command.Template`: listing items by a template

A template refers to the fields of an item by their names in braces. The fields are put in one
after the other, in the order of their names, so what a field puts in may refer to a later one.
-/

set_option autoImplicit false

namespace DeskPlan

mutual

/-- A document with the fields of all objects in the order of their names. -/
def Json.ordered : Json → Json
  | .list items => .list (Json.orderedItems items)
  | .obj fields => .obj (Json.orderedFields fields)
  | v => v

/-- The items of a list, each ordered. -/
def Json.orderedItems : List Json → List Json
  | [] => []
  | v :: rest => Json.ordered v :: Json.orderedItems rest

/-- The fields of an object in the order of their names, each ordered. -/
def Json.orderedFields : List (String × Json) → List (String × Json)
  | [] => []
  | (k, v) :: rest => NameMap.insertEntry k (Json.ordered v) (Json.orderedFields rest)

end

namespace Command

/-- A value inside a list as text. -/
def itemText : Json → String
  | .str s => s
  | v => v.compact

/-- A value as text: a text stands for itself, an absent value for nothing. -/
def fieldText : Json → String
  | .str s => s
  | .null => ""
  | .list items => String.intercalate ", " (items.map itemText)
  | v => v.compact

/-- A reference to a field. -/
def reference (key : String) : String := "\x7b" ++ key ++ "\x7d"

/-- A template with the fields of an item put in. -/
def fillTemplate (template : String) (fields : List (String × Json)) : String :=
  (Json.orderedFields fields).foldl
    (fun text f => Text.replaceAll (reference f.1) (fieldText f.2) text) template

end Command

end DeskPlan
