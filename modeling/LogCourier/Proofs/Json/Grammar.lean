import LogCourier.Json.Decoder

/-!
The grammar of JSON: which texts spell a value, and as which outline, told apart from any reader.

A text can be spelled in many ways, with gaps between its tokens, short escapes or units in its
strings, and marks of either case in its numbers. Nothing is said about what a number or a string
stands for, so that halves of pairs and numbers beyond all bounds are spelled as well as others.
-/

namespace LogCourier

/-- White space between tokens, of any length. -/
def Gap (run : List Char) : Prop :=
  ∀ c ∈ run, c = ' ' ∨ c = '\n' ∨ c = '\t' ∨ c = '\r'

/-- Decimal digits, of which there is at least one. -/
def Figures (run : List Char) : Prop :=
  run ≠ [] ∧ ∀ c ∈ run, isDigit c = true

namespace Numeral

/-- The fraction of a number: a point and digits behind it. -/
inductive FractionSpelled : Option (List Char) → List Char → Prop where
  | absent : FractionSpelled none []
  | present {run : List Char} (figures : Figures run) : FractionSpelled (some run) ('.' :: run)

/-- The sign of an exponent, which may be missing. -/
inductive SignSpelled : Bool → List Char → Prop where
  | missing : SignSpelled false []
  | plus : SignSpelled false ['+']
  | minus : SignSpelled true ['-']

/-- The exponent of a number: a letter, a sign, and digits. -/
inductive ExponentSpelled : Option (Bool × List Char) → List Char → Prop where
  | absent : ExponentSpelled none []
  | present {letter : Char} {minus : Bool} {sign run : List Char}
      (marked : letter = 'e' ∨ letter = 'E') (signed : SignSpelled minus sign)
      (figures : Figures run) : ExponentSpelled (some (minus, run)) (letter :: (sign ++ run))

/-- A number: a whole part without zeros before it, and what may stand before and behind it. -/
inductive Spelled : Numeral → List Char → Prop where
  | intro (negative : Bool) {whole front back : List Char} {fraction : Option (List Char)}
      {exponent : Option (Bool × List Char)} (figures : Figures whole)
      (regular : whole.head? = some '0' → whole = ['0'])
      (fractional : FractionSpelled fraction front) (scaled : ExponentSpelled exponent back) :
      Spelled ⟨negative, whole, fraction, exponent⟩
        ((if negative then ['-'] else []) ++ (whole ++ (front ++ back)))

end Numeral

namespace Piece

/-- A piece of a string: a character as it is, a letter behind a backslash, or a unit. -/
inductive Spelled : Piece → List Char → Prop where
  | plain {c : Char} (above : 32 ≤ c.toNat) (noQuote : c ≠ '"') (noBackslash : c ≠ '\\') :
      Spelled (.char c) [c]
  | short {letter c : Char} (known : shortEscape? letter = some c) :
      Spelled (.char c) ['\\', letter]
  | unit {a b c d : Char} {code : Nat} (digits : unitValue? a b c d = some code) :
      Spelled (.unit code) ['\\', 'u', a, b, c, d]

/-- Pieces one after another. -/
inductive RunSpelled : List Piece → List Char → Prop where
  | nil : RunSpelled [] []
  | cons {piece : Piece} {pieces : List Piece} {chars rest : List Char}
      (first : Spelled piece chars) (others : RunSpelled pieces rest) :
      RunSpelled (piece :: pieces) (chars ++ rest)

end Piece

/-- A string between its quotes. -/
inductive Literal.Spelled : Literal → List Char → Prop where
  | intro {pieces : List Piece} {chars : List Char} (run : Piece.RunSpelled pieces chars) :
      Literal.Spelled ⟨pieces, none⟩ ('"' :: (chars ++ ['"']))

namespace Outline

mutual

/-- A value, from its first character to its last. -/
inductive Spelled : Outline → List Char → Prop where
  | null : Spelled .null ['n', 'u', 'l', 'l']
  | yes : Spelled (.bool true) ['t', 'r', 'u', 'e']
  | no : Spelled (.bool false) ['f', 'a', 'l', 's', 'e']
  | numeral {value : Numeral} {chars : List Char} (spelled : value.Spelled chars) :
      Spelled (.numeral value) chars
  | text {value : Literal} {chars : List Char} (spelled : value.Spelled chars) :
      Spelled (.text value) chars
  | emptyList {gap : List Char} (blank : Gap gap) :
      Spelled (.list [] .closed) ('[' :: (gap ++ [']']))
  | list {items : List Outline} {chars : List Char} (spelled : ItemsSpelled items chars) :
      Spelled (.list items .closed) ('[' :: (chars ++ [']']))
  | emptyObject {gap : List Char} (blank : Gap gap) :
      Spelled (.object [] .closed) ('\x7b' :: (gap ++ ['\x7d']))
  | object {members : List (Outline × Outline)} {chars : List Char}
      (spelled : MembersSpelled members chars) :
      Spelled (.object members .closed) ('\x7b' :: (chars ++ ['\x7d']))

/-- Items with gaps around them, separated by commas. -/
inductive ItemsSpelled : List Outline → List Char → Prop where
  | last {item : Outline} {before core after : List Char} (fore : Gap before)
      (spelled : Spelled item core) (aft : Gap after) :
      ItemsSpelled [item] (before ++ (core ++ after))
  | more {item : Outline} {items : List Outline} {before core after rest : List Char}
      (fore : Gap before) (spelled : Spelled item core) (aft : Gap after)
      (others : ItemsSpelled items rest) :
      ItemsSpelled (item :: items) (before ++ (core ++ (after ++ ',' :: rest)))

/-- A member: a string, a colon, and a value, with gaps around them. -/
inductive MemberSpelled : Outline × Outline → List Char → Prop where
  | intro {key : Literal} {value : Outline} {before name between behind core after : List Char}
      (fore : Gap before) (named : key.Spelled name) (amid : Gap between) (next : Gap behind)
      (spelled : Spelled value core) (aft : Gap after) :
      MemberSpelled (.text key, value)
        (before ++ (name ++ (between ++ ':' :: (behind ++ (core ++ after)))))

/-- Members separated by commas. -/
inductive MembersSpelled : List (Outline × Outline) → List Char → Prop where
  | last {member : Outline × Outline} {chars : List Char} (spelled : MemberSpelled member chars) :
      MembersSpelled [member] chars
  | more {member : Outline × Outline} {members : List (Outline × Outline)}
      {chars rest : List Char} (spelled : MemberSpelled member chars)
      (others : MembersSpelled members rest) :
      MembersSpelled (member :: members) (chars ++ ',' :: rest)

end

/-- A whole text: one value, with nothing but gaps around it. -/
def SpelledAlone (outline : Outline) (text : List Char) : Prop :=
  ∃ before core after, text = before ++ (core ++ after) ∧ Gap before ∧ Spelled outline core ∧
    Gap after

end Outline

end LogCourier
