import LogCourier.Number.Layout
import LogCourier.Text.Quoted

/-! JSON values and their one-line text. -/

namespace LogCourier

/-- A JSON value as it is written; members keep their order. -/
inductive Json where
  | null
  | bool (value : Bool)
  | integer (value : Int)
  | number (value : Float)
  | text (value : String)
  | list (items : List Json)
  | object (members : List (String × Json))

namespace Json

/-- A character inside a string literal; controls have short escapes or four hexadecimal digits. -/
def escaped (c : Char) : List Char :=
  match c with
  | '"' => ['\\', '"']
  | '\\' => ['\\', '\\']
  | '\x08' => ['\\', 'b']
  | '\x0c' => ['\\', 'f']
  | '\n' => ['\\', 'n']
  | '\r' => ['\\', 'r']
  | '\t' => ['\\', 't']
  | _ =>
    if c.toNat < 32 then
      ['\\', 'u', '0', '0', hexDigit (c.toNat / 16), hexDigit (c.toNat % 16)]
    else [c]

/-- A string literal. -/
def literal (value : String) : List Char :=
  '"' :: value.toList.flatMap escaped ++ ['"']

mutual

/-- The text of a value, without any white space between its tokens. -/
def chars : Json → List Char
  | .null => ['n', 'u', 'l', 'l']
  | .bool true => ['t', 'r', 'u', 'e']
  | .bool false => ['f', 'a', 'l', 's', 'e']
  | .integer value => integerDigits value
  | .number value => NumberLayout.wire.text value
  | .text value => literal value
  | .list items => '[' :: itemsChars items ++ [']']
  | .object members => '\x7b' :: membersChars members ++ ['\x7d']

/-- The items of a list, separated by commas. -/
def itemsChars : List Json → List Char
  | [] => []
  | [item] => chars item
  | item :: rest => chars item ++ ',' :: itemsChars rest

/-- The members of an object, separated by commas. -/
def membersChars : List (String × Json) → List Char
  | [] => []
  | [(key, value)] => literal key ++ ':' :: chars value
  | (key, value) :: rest => literal key ++ ':' :: chars value ++ ',' :: membersChars rest

end

/-- The text of a value as a string. -/
def render (value : Json) : String :=
  String.ofList value.chars

end Json

end LogCourier
