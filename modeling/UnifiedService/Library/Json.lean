import Mathlib.Data.List.Lex
import Mathlib.Data.List.Sort
import UnifiedService.Library.JsString

/-! JSON values as a parsed body holds them, and their text with the keys in order. -/

set_option autoImplicit false

namespace UnifiedService.Library

inductive Json where
  | null
  | bool (value : Bool)
  /-- A number that is written as an integer. -/
  | num (value : Int)
  /-- A number that is written with a point or an exponent, as it is written. -/
  | decimal (text : String)
  /-- A number too great for a double. -/
  | infinite (negative : Bool)
  | str (value : String)
  | arr (items : List Json)
  | obj (fields : List (String × Json))

namespace Json

def object (fields : List (String × Option Json)) : Json :=
  .obj (fields.filterMap fun field => field.2.map (field.1, ·))

/-- `value[key]`. -/
def field (key : String) : Json → Option Json
  | .obj fields => (fields.find? (·.1 == key)).map (·.2)
  | .null | .bool _ | .num _ | .decimal _ | .infinite _ | .str _ | .arr _ => none

def text? : Json → Option String
  | .str value => some value
  | .null | .bool _ | .num _ | .decimal _ | .infinite _ | .arr _ | .obj _ => none

/-- `typeof value === 'object' && value !== null`. -/
def isObject : Json → Bool
  | .arr _ | .obj _ => true
  | .null | .bool _ | .num _ | .decimal _ | .infinite _ | .str _ => false

def textField (key : String) (value : Json) : Option String := (value.field key).bind text?

def objectField (key : String) (value : Json) : Option Json := (value.field key).filter isObject

/-- What `JSON.stringify` writes for a character of a string. -/
def quoteChar (character : Char) : String :=
  if character = '"' then "\\\""
  else if character = '\\' then "\\\\"
  else if character.toNat = 8 then "\\b"
  else if character.toNat = 9 then "\\t"
  else if character.toNat = 10 then "\\n"
  else if character.toNat = 12 then "\\f"
  else if character.toNat = 13 then "\\r"
  else if character.toNat < 32 then
    "\\u00" ++ String.ofList
      [Nat.digitChar (character.toNat / 16), Nat.digitChar (character.toNat % 16)]
  else String.singleton character

def quote (text : String) : String :=
  "\"" ++ String.join (text.toList.map quoteChar) ++ "\""

/-- The order of the fields: by their names, in UTF-16 units. -/
def keyBefore (first second : String × String) : Prop := jsUnits first.1 ≤ jsUnits second.1

instance : DecidableRel keyBefore := fun first second =>
  inferInstanceAs (Decidable (jsUnits first.1 ≤ jsUnits second.1))

mutual

def stableStringify : Json → String
  | .null => "null"
  | .bool true => "true"
  | .bool false => "false"
  | .num value => toString value
  | .decimal text => text
  | .infinite _ => "null"
  | .str value => quote value
  | .arr items => "[" ++ String.intercalate "," (stringifyItems items) ++ "]"
  | .obj fields =>
      "\x7b" ++ String.intercalate ","
        (((stringifyFields fields).insertionSort keyBefore).map fun entry =>
          quote entry.1 ++ ":" ++ entry.2) ++ "\x7d"

def stringifyItems : List Json → List String
  | [] => []
  | item :: items => stableStringify item :: stringifyItems items

def stringifyFields : List (String × Json) → List (String × String)
  | [] => []
  | (key, value) :: fields => (key, stableStringify value) :: stringifyFields fields

end

mutual

/-- `JSON.stringify(value)`: the fields stand as they are. -/
def stringify : Json → String
  | .arr items => "[" ++ String.intercalate "," (stringifyEach items) ++ "]"
  | .obj fields => "\x7b" ++ String.intercalate "," (stringifyEntries fields) ++ "\x7d"
  | value => stableStringify value

def stringifyEach : List Json → List String
  | [] => []
  | item :: items => stringify item :: stringifyEach items

def stringifyEntries : List (String × Json) → List String
  | [] => []
  | (key, value) :: fields => (quote key ++ ":" ++ stringify value) :: stringifyEntries fields

end

end Json

end UnifiedService.Library
