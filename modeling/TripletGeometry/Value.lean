import TripletGeometry.Decimal.Text
import TripletGeometry.Text.Quoted

/-!
Loosely typed values, as they arrive before they are admitted as an encoding or as settings, and
their printed form. Records keep their fields in the order in which they were written.
-/
namespace TripletGeometry

inductive Value where
  | absent
  | flag (value : Bool)
  | integer (value : Int)
  | number (value : Float)
  | text (value : String)
  | list (items : List Value)
  | record (fields : List (String × Value))

namespace Value

mutual

def printed : Value → String
  | .absent => "None"
  | .flag true => "True"
  | .flag false => "False"
  | .integer n => toString n
  | .number x => Decimal.text x
  | .text s => Text.quoted s
  | .list items => "[" ++ ", ".intercalate (printedItems items) ++ "]"
  | .record fields => "\x7b" ++ ", ".intercalate (printedFields fields) ++ "\x7d"

def printedItems : List Value → List String
  | [] => []
  | item :: rest => item.printed :: printedItems rest

def printedFields : List (String × Value) → List String
  | [] => []
  | (name, value) :: rest =>
    (Text.quoted name ++ ": " ++ value.printed) :: printedFields rest

end

def typeName : Value → String
  | .absent => "NoneType"
  | .flag _ => "bool"
  | .integer _ => "int"
  | .number _ => "float"
  | .text _ => "str"
  | .list _ => "list"
  | .record _ => "dict"

def isVoid : Value → Bool
  | .absent => true
  | .flag b => !b
  | .integer n => n = 0
  | .number x => x == 0.0
  | .text s => s.isEmpty
  | .list items => items.isEmpty
  | .record fields => fields.isEmpty

def parts? : Value → Option (List Value)
  | .text s => some (s.toList.map fun c => .text c.toString)
  | .list items => some items
  | .record fields => some (fields.map fun (name, _) => .text name)
  | _ => none

end Value

end TripletGeometry
