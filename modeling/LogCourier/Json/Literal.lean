/-! String literals as they stand in a text, and the strings they stand for. -/

namespace LogCourier

/-- What can be wrong with a JSON text. -/
inductive Fault where
  /-- Something stands where it may not. -/
  | malformed
  /-- The text ends where a token was due, or inside a string. -/
  | truncated
  /-- The text ends inside a keyword. -/
  | cutWord
  /-- The text ends inside a number, which a reader and a skipper judge differently. -/
  | cutNumber
  deriving DecidableEq, Repr

/-- A piece of a string literal: a plain or escaped character, or an escaped UTF-16 unit. -/
inductive Piece where
  | char (value : Char)
  | unit (code : Nat)
  deriving DecidableEq, Repr

/-- A string literal up to its closing quote, or up to the fault before it. -/
structure Literal where
  pieces : List Piece
  fault : Option Fault
  deriving DecidableEq, Repr

/-- The value of a hexadecimal digit of either case. -/
def hexValue? (c : Char) : Option Nat :=
  if '0' ≤ c ∧ c ≤ '9' then some (c.toNat - 48)
  else if 'a' ≤ c ∧ c ≤ 'f' then some (c.toNat - 87)
  else if 'A' ≤ c ∧ c ≤ 'F' then some (c.toNat - 55)
  else none

/-- The unit that four hexadecimal digits stand for. -/
def unitValue? (a b c d : Char) : Option Nat := do
  let a ← hexValue? a
  let b ← hexValue? b
  let c ← hexValue? c
  let d ← hexValue? d
  return ((a * 16 + b) * 16 + c) * 16 + d

/-- The character that a letter after a backslash stands for. -/
def shortEscape? (c : Char) : Option Char :=
  match c with
  | '"' => some '"'
  | '\\' => some '\\'
  | '/' => some '/'
  | 'b' => some '\x08'
  | 'f' => some '\x0c'
  | 'n' => some '\n'
  | 'r' => some '\r'
  | 't' => some '\t'
  | _ => none

/-- The encoded size of the characters left, which decides whether four digits could follow. -/
def encodedSize (text : List Char) : Nat :=
  text.foldl (fun size c => size + c.utf8Size) 0

/-- Splits a text after an opening quote into the literal and what follows its closing quote. -/
def scanLiteral : List Char → Literal × List Char
  | [] => (⟨[], some .truncated⟩, [])
  | '"' :: rest => (⟨[], none⟩, rest)
  | '\\' :: 'u' :: a :: b :: c :: d :: rest =>
    match unitValue? a b c d with
    | some code =>
      let (literal, after) := scanLiteral rest
      (⟨.unit code :: literal.pieces, literal.fault⟩, after)
    | none => (⟨[], some .malformed⟩, [])
  | '\\' :: 'u' :: few =>
    -- Fewer than four characters may still take four places in the encoded text.
    (⟨[], some (if encodedSize few < 4 then .truncated else .malformed)⟩, [])
  | '\\' :: c :: rest =>
    match shortEscape? c with
    | some value =>
      let (literal, after) := scanLiteral rest
      (⟨.char value :: literal.pieces, literal.fault⟩, after)
    | none => (⟨[], some .malformed⟩, [])
  | ['\\'] => (⟨[], some .truncated⟩, [])
  | c :: rest =>
    if c.toNat < 32 then (⟨[], some .malformed⟩, [])
    else
      let (literal, after) := scanLiteral rest
      (⟨.char c :: literal.pieces, literal.fault⟩, after)

/-- The first unit of a surrogate pair. -/
def isLeadingUnit (code : Nat) : Bool :=
  0xd800 ≤ code && code ≤ 0xdbff

/-- The second unit of a surrogate pair. -/
def isTrailingUnit (code : Nat) : Bool :=
  0xdc00 ≤ code && code ≤ 0xdfff

/-- The character that two paired units stand for. -/
def pairedChar (leading trailing : Nat) : Char :=
  Char.ofNat (0x10000 + (leading - 0xd800) * 0x400 + (trailing - 0xdc00))

/-- The characters of a run of pieces that ends with a closing quote or with a fault. -/
def joinPieces (fault : Option Fault) : List Piece → Except Fault (List Char)
  | [] => match fault with
    | none => .ok []
    | some problem => .error problem
  | .char c :: rest => (joinPieces fault rest).map (c :: ·)
  | [.unit code] =>
    -- A leading unit at the end waits for its partner, so the fault at the end comes first.
    if isTrailingUnit code then .error .malformed
    else if isLeadingUnit code then .error (fault.getD .malformed)
    else (joinPieces fault []).map (Char.ofNat code :: ·)
  | .unit code :: next :: rest =>
    if isTrailingUnit code then .error .malformed
    else if isLeadingUnit code then
      match next with
      | .unit partner =>
        if isTrailingUnit partner then
          (joinPieces fault rest).map (pairedChar code partner :: ·)
        else .error .malformed
      | .char _ => .error .malformed
    else (joinPieces fault (next :: rest)).map (Char.ofNat code :: ·)

/-- The string that a literal stands for. -/
def Literal.value (literal : Literal) : Except Fault String :=
  (joinPieces literal.fault literal.pieces).map String.ofList

end LogCourier
