/-
The written form of values.

Null and the truth values are words, integers are decimal, texts are quoted,
and a record is its type id with the fields between parentheses, separated by
a comma and a blank. Type ids are written without looking anything up, so the
form needs no table.
-/
import RecordPatterns.Text.Quoted
import RecordPatterns.Value.Basic

set_option autoImplicit false

namespace RecordPatterns.Value

mutual

/-- The characters of a value's written form. -/
def chars : Value → List Char
  | null => "null".toList
  | bool true => "true".toList
  | bool false => "false".toList
  | int n => (toString n.toInt).toList
  | text s => Text.quote s.toList
  | record type fields =>
    type.render.toList ++ '(' :: (", ".toList.intercalate (charsAll fields) ++ [')'])

/-- The characters of the written forms of several values. -/
def charsAll : List Value → List (List Char)
  | [] => []
  | v :: rest => v.chars :: charsAll rest

end

/-- The written form of a value. -/
def render (v : Value) : String := String.ofList v.chars

end RecordPatterns.Value
