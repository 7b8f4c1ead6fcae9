import LogCourier.Json.Numeral

/-! The outline of a JSON text: what a reader meets from left to right, up to the first fault. -/

namespace LogCourier

/-- What stands after the last item of a list or the last member of an object. -/
inductive Ending where
  | closed
  /-- The text ends where a comma or a bracket was due. -/
  | cut
  /-- The text ends after a comma. -/
  | dangling
  /-- Something else stands there. -/
  | stray
  deriving DecidableEq, Repr

/-- A JSON value as it stands in a text, with every fault at its place. -/
inductive Outline where
  | null
  | bool (value : Bool)
  | numeral (value : Numeral)
  | text (value : Literal)
  | list (items : List Outline) (ending : Ending)
  /-- Keys are outlines too, since what stands in their place need not be a string. -/
  | object (members : List (Outline × Outline)) (ending : Ending)
  | broken (fault : Fault)

/-- The characters that JSON allows between tokens. -/
def isGap (c : Char) : Bool :=
  c == ' ' || c == '\n' || c == '\t' || c == '\r'

/-- A text without the gap at its start. -/
def skipGap (text : List Char) : List Char :=
  text.dropWhile isGap

/-- Reads the rest of a keyword. -/
def scanWord : List Char → List Char → Except Fault (List Char)
  | [], text => .ok text
  | _ :: _, [] => .error .cutWord
  | letter :: word, c :: rest => if c = letter then scanWord word rest else .error .malformed

namespace Outline

/-- What was read, and the rest of the text unless reading ended in a fault. -/
abbrev Scan := Outline × Option (List Char)

/-- A keyword, of which the first letter is already read. -/
def keyword (meaning : Outline) (word input : List Char) : Scan :=
  match scanWord word input with
  | .ok rest => (meaning, some rest)
  | .error fault => (.broken fault, none)

/-- A string, of which the opening quote is already read. -/
def string (input : List Char) : Scan :=
  let (literal, rest) := scanLiteral input
  (.text literal, if literal.fault.isNone then some rest else none)

/-- A number, which starts the text. -/
def number (input : List Char) : Scan :=
  match scanNumeral input with
  | .ok (value, rest) => (.numeral value, some rest)
  | .error fault => (.broken fault, none)

mutual

/-- The value that starts a text, by at most `fuel` nested calls. -/
def scan : Nat → List Char → Scan
  | 0, _ => (.broken .malformed, none)
  | fuel + 1, input =>
    match skipGap input with
    | [] => (.broken .truncated, none)
    | 'n' :: rest => keyword .null ['u', 'l', 'l'] rest
    | 't' :: rest => keyword (.bool true) ['r', 'u', 'e'] rest
    | 'f' :: rest => keyword (.bool false) ['a', 'l', 's', 'e'] rest
    | '"' :: rest => string rest
    | '[' :: rest =>
      match skipGap rest with
      | [] => (.list [] .cut, none)
      | ']' :: after => (.list [] .closed, some after)
      | _ =>
        let (items, ending, after) := scanItems fuel rest
        (.list items ending, after)
    | '\x7b' :: rest =>
      match skipGap rest with
      | [] => (.object [] .cut, none)
      | '\x7d' :: after => (.object [] .closed, some after)
      | _ =>
        let (members, ending, after) := scanMembers fuel rest
        (.object members ending, after)
    | c :: rest =>
      if c = '-' ∨ isDigit c then number (c :: rest) else (.broken .malformed, none)

/-- The items of a list, of which there is at least one. -/
def scanItems : Nat → List Char → List Outline × Ending × Option (List Char)
  | 0, _ => ([], .stray, none)
  | fuel + 1, input =>
    match scan fuel input with
    | (item, none) => ([item], .stray, none)
    | (item, some rest) =>
      match skipGap rest with
      | ']' :: after => ([item], .closed, some after)
      | [] => ([item], .cut, none)
      | ',' :: more =>
        match skipGap more with
        | [] => ([item], .dangling, none)
        | ']' :: _ => ([item], .stray, none)
        | _ =>
          let (items, ending, after) := scanItems fuel more
          (item :: items, ending, after)
      | _ => ([item], .stray, none)

/-- The members of an object, of which there is at least one. -/
def scanMembers : Nat → List Char → List (Outline × Outline) × Ending × Option (List Char)
  | 0, _ => ([], .stray, none)
  | fuel + 1, input =>
    match scan fuel input with
    | (.text key, some rest) =>
      match skipGap rest with
      | ':' :: afterColon =>
        match scan fuel afterColon with
        | (value, none) => ([(.text key, value)], .stray, none)
        | (value, some afterValue) =>
          match skipGap afterValue with
          | '\x7d' :: after => ([(.text key, value)], .closed, some after)
          | [] => ([(.text key, value)], .cut, none)
          | ',' :: more =>
            match skipGap more with
            | [] => ([(.text key, value)], .dangling, none)
            | _ =>
              let (members, ending, after) := scanMembers fuel more
              ((.text key, value) :: members, ending, after)
          | _ => ([(.text key, value)], .stray, none)
      | [] => ([(.text key, .broken .truncated)], .stray, none)
      | _ => ([(.text key, .broken .malformed)], .stray, none)
    | (key, _) => ([(key, .broken .malformed)], .stray, none)

end

/-- The outline of the value that starts a text, and what follows it. -/
def ofChars (input : List Char) : Scan :=
  -- A level of nesting takes two calls and at least one character.
  scan (2 * input.length + 2) input

end Outline

end LogCourier
