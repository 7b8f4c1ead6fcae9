import LogCourier.Json.Decoder
import LogCourier.Proofs.Json.Grammar

/-!
Whatever the grammar spells, the scanner recognises: it finds the outline that is spelled and goes
on behind it, so that no text spells two outlines and a decoder sees nothing but the outline.
-/

namespace LogCourier

/-- The characters of a gap. -/
theorem isGap_iff {c : Char} : isGap c = true ↔ c = ' ' ∨ c = '\n' ∨ c = '\t' ∨ c = '\r' := by
  simp [isGap, or_assoc]

/-- A gap is skipped as far as it goes. -/
theorem skipGap_append {gap : List Char} (blank : Gap gap) (rest : List Char) :
    skipGap (gap ++ rest) = skipGap rest :=
  List.dropWhile_append_of_pos fun c member => isGap_iff.2 (blank c member)

/-- Nothing is left of a text that is a gap. -/
theorem skipGap_eq_nil {gap : List Char} (blank : Gap gap) : skipGap gap = [] := by
  have skipped := skipGap_append blank []
  rwa [List.append_nil] at skipped

/-- A token is not skipped. -/
theorem skipGap_token {c : Char} {rest : List Char} (token : isGap c = false) :
    skipGap (c :: rest) = c :: rest := by
  simp [skipGap, token]

/-- What follows a number: nothing that could belong to it. -/
def Halts (rest : List Char) : Prop :=
  ∀ c, rest.head? = some c → isDigit c = false ∧ c ≠ '.' ∧ c ≠ 'e' ∧ c ≠ 'E'

namespace Halts

/-- A number may end with the text. -/
theorem nil : Halts [] := by
  intro c first
  cases first

/-- A number may end before a comma or a closing bracket. -/
theorem mark {c : Char} (closing : c = ',' ∨ c = ']' ∨ c = '\x7d') (rest : List Char) :
    Halts (c :: rest) := by
  intro first same
  rw [List.head?_cons, Option.some.injEq] at same
  subst same
  -- A number goes on with a digit, a point or an exponent, and none of these closes anything.
  rcases closing with rfl | rfl | rfl <;> decide

/-- A number may end before a gap. -/
theorem gap {gap rest : List Char} (blank : Gap gap) (halts : Halts rest) :
    Halts (gap ++ rest) := by
  cases gap with
  | nil => exact halts
  | cons c others =>
    intro first same
    rw [List.cons_append, List.head?_cons, Option.some.injEq] at same
    subst same
    -- The first blank of the gap ends the number.
    rcases blank c List.mem_cons_self with rfl | rfl | rfl | rfl <;> decide

end Halts

/-- A text does not go on with a digit. -/
private def Stops (rest : List Char) : Prop :=
  ∀ c, rest.head? = some c → isDigit c = false

/-- Digits are split off where no other digit follows. -/
private theorem someDigits_figures {run rest : List Char} (figures : Figures run)
    (stops : Stops rest) : someDigits (run ++ rest) = .ok (run, rest) := by
  obtain ⟨nonempty, all⟩ := figures
  -- The rest keeps all of its characters.
  have kept : rest.takeWhile isDigit = [] ∧ rest.dropWhile isDigit = rest := by
    cases rest with
    | nil => exact ⟨rfl, rfl⟩
    | cons c others => simp [stops c rfl]
  have span : spanDigits (run ++ rest) = (run, rest) := by
    rw [spanDigits, List.takeWhile_append_of_pos all, List.dropWhile_append_of_pos all, kept.1,
      kept.2, List.append_nil]
  cases run with
  | nil => exact absurd rfl nonempty
  | cons c others =>
    rw [← span, List.cons_append, someDigits, if_pos (all c List.mem_cons_self)]

/-- The whole part of a number is split off. -/
private theorem scanWhole_figures {whole rest : List Char} (figures : Figures whole)
    (regular : whole.head? = some '0' → whole = ['0']) (stops : Stops rest) :
    scanWhole (whole ++ rest) = .ok (whole, rest) := by
  have split := someDigits_figures figures stops
  by_cases zero : whole.head? = some '0'
  · -- A zero at the start stands alone, and no digit may follow it.
    rw [regular zero] at split ⊢
    cases rest with
    | nil => exact split
    | cons c others => simp [scanWhole, stops c rfl]
  · rw [← split]
    cases whole with
    | nil => exact absurd rfl figures.1
    | cons c others =>
      rw [List.cons_append, scanWhole]
      rintro next after same
      exact zero (by rw [(List.cons.inj same).1]; rfl)

/-- An exponent is split off, and where there is none, none is found. -/
private theorem scanExponent_spelled {exponent : Option (Bool × List Char)} {back rest : List Char}
    (scaled : Numeral.ExponentSpelled exponent back) (halts : Halts rest) :
    scanExponent (back ++ rest) = .ok (exponent, rest) := by
  cases scaled with
  | absent =>
    cases rest with
    | nil => rfl
    | cons c others =>
      have ⟨_, _, small, capital⟩ := halts c rfl
      simp [scanExponent, small, capital]
  | @present letter minus sign run marked signed figures =>
    have digits := someDigits_figures figures fun c first => (halts c first).1
    -- The digits have no sign in front of them that could be taken for the sign of the exponent.
    have sign : scanSign (sign ++ (run ++ rest)) = (minus, run ++ rest) := by
      cases signed with
      | plus => rfl
      | minus => rfl
      | missing =>
        obtain ⟨nonempty, all⟩ := figures
        cases run with
        | nil => exact absurd rfl nonempty
        | cons c others =>
          have digit := all c List.mem_cons_self
          rw [List.nil_append, List.cons_append, scanSign]
          · rintro after same
            rw [(List.cons.inj same).1] at digit
            exact absurd digit (by decide)
          · rintro after same
            rw [(List.cons.inj same).1] at digit
            exact absurd digit (by decide)
    rw [List.cons_append, List.append_assoc, scanExponent, if_pos marked, sign]
    simp [digits, Except.map]

/-- A fraction is split off, and where there is none, none is found. -/
private theorem scanFraction_spelled {fraction : Option (List Char)} {front rest : List Char}
    (fractional : Numeral.FractionSpelled fraction front) (stops : Stops rest)
    (pointless : rest.head? ≠ some '.') :
    scanFraction (front ++ rest) = .ok (fraction, rest) := by
  cases fractional with
  | absent =>
    rw [List.nil_append, scanFraction]
    -- A fraction is announced by its point, and what follows has none.
    rintro after rfl
    exact pointless rfl
  | present figures =>
    rw [List.cons_append, scanFraction, someDigits_figures figures stops]
    rfl

/-- Behind the digits of a number, neither its exponent nor what follows goes on with them. -/
private theorem stops_exponent {exponent : Option (Bool × List Char)} {back rest : List Char}
    (scaled : Numeral.ExponentSpelled exponent back) (halts : Halts rest) :
    Stops (back ++ rest) ∧ (back ++ rest).head? ≠ some '.' := by
  cases scaled with
  | absent =>
    refine ⟨fun c first => (halts c first).1, fun point => ?_⟩
    -- Without an exponent it is what follows that has to stop the digits.
    exact (halts '.' point).2.1 rfl
  | present marked signed figures =>
    rcases marked with rfl | rfl
    -- The exponent starts with its letter, which is neither a digit nor a point.
    all_goals
      refine ⟨?_, by simp⟩
      intro c first
      rw [List.cons_append, List.head?_cons, Option.some.injEq] at first
      subst first
      decide

/-- The digits of a whole part are not gone on with by a fraction, nor by what follows. -/
private theorem stops_fraction {fraction : Option (List Char)} {front rest : List Char}
    (fractional : Numeral.FractionSpelled fraction front) (stops : Stops rest) :
    Stops (front ++ rest) := by
  cases fractional with
  | absent => exact stops
  | present figures =>
    -- The fraction starts with its point.
    intro c first
    rw [List.cons_append, List.head?_cons, Option.some.injEq] at first
    subst first
    decide

/-- A number is scanned up to its end. -/
theorem scanNumeral_spelled {value : Numeral} {chars rest : List Char}
    (spelled : value.Spelled chars) (halts : Halts rest) :
    scanNumeral (chars ++ rest) = .ok (value, rest) := by
  obtain ⟨negative, figures, regular, fractional, scaled⟩ := spelled
  rename_i whole front back fraction exponent
  -- The parts are split off from left to right, each up to where the next one starts.
  have ⟨stops, pointless⟩ := stops_exponent scaled halts
  have wholes := scanWhole_figures figures regular (stops_fraction fractional stops)
  have fractions := scanFraction_spelled fractional stops pointless
  have exponents := scanExponent_spelled scaled halts
  cases negative with
  | true =>
    simp [scanNumeral, wholes, fractions, exponents, bind, Except.bind, pure, Except.pure]
  | false =>
    -- The first digit is no minus sign.
    obtain ⟨nonempty, all⟩ := figures
    cases whole with
    | nil => exact absurd rfl nonempty
    | cons c others =>
      have unsigned : c ≠ '-' := by
        rintro rfl
        exact absurd (all '-' List.mem_cons_self) (by decide)
      simp only [List.cons_append] at wholes
      simp [scanNumeral, unsigned, wholes, fractions, exponents, bind, Except.bind, pure,
        Except.pure]

/-- Pieces are scanned up to the quote that closes their string. -/
theorem scanLiteral_run {pieces : List Piece} {chars : List Char}
    (run : Piece.RunSpelled pieces chars) (rest : List Char) :
    scanLiteral (chars ++ '"' :: rest) = (⟨pieces, none⟩, rest) := by
  -- Each piece is told by its first characters, and the others follow.
  induction run with
  | nil => rfl
  | @cons piece pieces chars others first run ih =>
    rw [List.append_assoc]
    cases first with
    | plain above noQuote noBackslash =>
      have printable : ¬ (_ < 32) := Nat.not_lt.2 above
      rw [List.singleton_append, scanLiteral]
      · simp [printable, ih]
      all_goals simp_all
    | @short letter c known =>
      have noUnit : letter ≠ 'u' := by
        rintro rfl
        cases known
      simp only [List.cons_append, List.nil_append]
      rw [scanLiteral]
      · simp [known, ih]
      all_goals simp_all
    | unit digits =>
      simp only [List.cons_append, List.nil_append]
      rw [scanLiteral, digits]
      simp [ih]

namespace Outline

/-- A value starts with a character that is no gap and closes nothing. -/
def Starts (input : List Char) : Prop :=
  ∃ first others, skipGap input = first :: others ∧ first ≠ ']' ∧ first ≠ '\x7d'

/-- A gap in front changes nothing of what starts behind it. -/
theorem Starts.gap {gap input : List Char} (blank : Gap gap) (starts : Starts input) :
    Starts (gap ++ input) := by
  rwa [Starts, skipGap_append blank]

/-- A number starts with a minus sign or a digit. -/
private theorem numeral_starts {value : Numeral} {chars : List Char}
    (spelled : value.Spelled chars) :
    ∃ first others, chars = first :: others ∧ (first = '-' ∨ isDigit first = true) := by
  obtain ⟨negative, ⟨nonempty, all⟩, regular, fractional, scaled⟩ := spelled
  -- The sign comes first, and without one the whole part, which is not empty.
  rename_i whole front back fraction exponent
  cases negative with
  | true => exact ⟨'-', whole ++ (front ++ back), rfl, .inl rfl⟩
  | false =>
    cases whole with
    | nil => exact absurd rfl nonempty
    | cons c others => exact ⟨c, others ++ (front ++ back), rfl, .inr (all c List.mem_cons_self)⟩

/-- A minus sign or a digit starts nothing but a number. -/
private theorem numeral_first {first : Char} (numeric : first = '-' ∨ isDigit first = true) :
    isGap first = false ∧ first ∉ ['n', 't', 'f', '"', '[', ']', '\x7b', '\x7d'] := by
  -- Among the characters that start something else none is a digit, so that each can be tried.
  constructor
  · rw [Bool.eq_false_iff, ne_eq, isGap_iff]
    rintro (rfl | rfl | rfl | rfl)
    all_goals
      revert numeric
      decide
  · intro member
    simp only [List.mem_cons, List.not_mem_nil, or_false] at member
    rcases member with rfl | rfl | rfl | rfl | rfl | rfl | rfl | rfl
    all_goals
      revert numeric
      decide

/-- A spelled value starts with a character that is no gap and closes nothing. -/
theorem Spelled.starts {outline : Outline} {core : List Char} (spelled : Spelled outline core)
    (rest : List Char) : Starts (core ++ rest) := by
  -- What a value starts with is told by its kind; only a number has more than one way to start.
  cases spelled with
  | numeral spelled =>
    obtain ⟨first, others, rfl, numeric⟩ := numeral_starts spelled
    have ⟨token, other⟩ := numeral_first numeric
    refine ⟨first, others ++ rest, skipGap_token token, ?_, ?_⟩
    all_goals
      rintro rfl
      exact other (by decide)
  | text spelled =>
    cases spelled
    exact ⟨'"', _, skipGap_token rfl, by decide, by decide⟩
  | _ => exact ⟨_, _, skipGap_token rfl, by decide, by decide⟩

/-- Items start with the first of them. -/
theorem ItemsSpelled.starts {items : List Outline} {chars : List Char}
    (spelled : ItemsSpelled items chars) (rest : List Char) : Starts (chars ++ rest) := by
  -- The first item is found behind a gap, whether or not others follow.
  cases spelled with
  | last fore spelled aft =>
    rw [List.append_assoc, List.append_assoc]
    exact (spelled.starts _).gap fore
  | more fore spelled aft others =>
    rw [List.append_assoc, List.append_assoc]
    exact (spelled.starts _).gap fore

/-- A member starts with its key. -/
theorem MemberSpelled.starts {member : Outline × Outline} {chars : List Char}
    (spelled : MemberSpelled member chars) (rest : List Char) : Starts (chars ++ rest) := by
  -- Every key is a string.
  obtain ⟨fore, named, amid, next, spelled, aft⟩ := spelled
  rw [List.append_assoc, List.append_assoc]
  exact ((Spelled.text named).starts _).gap fore

/-- Members start with the first of them. -/
theorem MembersSpelled.starts {members : List (Outline × Outline)} {chars : List Char}
    (spelled : MembersSpelled members chars) (rest : List Char) : Starts (chars ++ rest) := by
  -- The first member may be the only one.
  cases spelled with
  | last spelled => exact spelled.starts rest
  | more spelled others =>
    rw [List.append_assoc]
    exact spelled.starts _

/-- Gaps in front of a value are not scanned. -/
theorem scan_gap {gap : List Char} (blank : Gap gap) (fuel : Nat) (rest : List Char) :
    scan fuel (gap ++ rest) = scan fuel rest := by
  -- The scanner passes over gaps at each value, whatever fuel it has left.
  cases fuel with
  | zero => rw [scan, scan]
  | succ fuel => rw [scan, scan, skipGap_append blank]

/-- A number is scanned as a value. -/
theorem scan_numeral {value : Numeral} {chars rest : List Char}
    (spelled : value.Spelled chars) (halts : Halts rest) (fuel : Nat) :
    scan (fuel + 1) (chars ++ rest) = (.numeral value, some rest) := by
  have scanned := scanNumeral_spelled spelled halts
  -- No other case of the scanner starts with the first character of a number.
  obtain ⟨first, others, rfl, numeric⟩ := numeral_starts spelled
  have ⟨token, other⟩ := numeral_first numeric
  simp only [List.mem_cons, List.not_mem_nil, or_false, not_or] at other
  rw [List.cons_append] at scanned ⊢
  simp [scan, skipGap_token token, numeric, number, scanned, other]

/-- A string is scanned as a value. -/
theorem scan_string {value : Literal} {chars : List Char} (spelled : value.Spelled chars)
    (fuel : Nat) (rest : List Char) :
    scan (fuel + 1) (chars ++ rest) = (.text value, some rest) := by
  -- The quotation mark leads the scanner to the characters that it marks off.
  obtain ⟨run⟩ := spelled
  have scanned := scanLiteral_run run rest
  simp [scan, skipGap_token, isGap, string, scanned]

mutual

/-- A value is scanned up to its end. -/
theorem scan_spelled {outline : Outline} {core rest : List Char} {fuel : Nat}
    (spelled : Spelled outline core) (halts : Halts rest) (enough : 2 * core.length < fuel) :
    scan fuel (core ++ rest) = (outline, some rest) := by
  -- A value takes one call, and a list or an object hands the rest of the fuel to its content.
  obtain ⟨fuel, rfl⟩ := Nat.exists_eq_add_of_lt (Nat.zero_lt_of_lt enough)
  rw [Nat.zero_add] at enough ⊢
  match spelled with
  | .null => simp [scan, skipGap_token, isGap, keyword, scanWord]
  | .yes => simp [scan, skipGap_token, isGap, keyword, scanWord]
  | .no => simp [scan, skipGap_token, isGap, keyword, scanWord]
  | .numeral spelled => exact scan_numeral spelled halts fuel
  | .text spelled => exact scan_string spelled fuel rest
  | .emptyList blank => simp [scan, skipGap_token, isGap, skipGap_append blank]
  | @Spelled.list items chars spelled =>
    -- The brackets are two characters, which is fuel for more than the one call.
    have inside : 2 * chars.length + 1 < fuel := by
      simp only [List.length_cons, List.length_append, List.length_nil] at enough
      omega
    have scanned := scanItems_spelled spelled rest inside
    have ⟨first, others, start, notBracket, _⟩ := spelled.starts (']' :: rest)
    rw [List.cons_append, List.append_assoc, List.singleton_append]
    simp [scan, skipGap_token, isGap, start, notBracket, scanned]
  | .emptyObject blank => simp [scan, skipGap_token, isGap, skipGap_append blank]
  | @Spelled.object members chars spelled =>
    have inside : 2 * chars.length + 1 < fuel := by
      simp only [List.length_cons, List.length_append, List.length_nil] at enough
      omega
    have scanned := scanMembers_spelled spelled rest inside
    have ⟨first, others, start, _, notBrace⟩ := spelled.starts ('\x7d' :: rest)
    rw [List.cons_append, List.append_assoc, List.singleton_append]
    simp [scan, skipGap_token, isGap, start, notBrace, scanned]
termination_by 2 * fuel

/-- Items are scanned up to the end of their list. -/
theorem scanItems_spelled {items : List Outline} {chars : List Char} {fuel : Nat}
    (spelled : ItemsSpelled items chars) (rest : List Char)
    (enough : 2 * chars.length + 1 < fuel) :
    scanItems fuel (chars ++ ']' :: rest) = (items, .closed, some rest) := by
  -- Each item takes a call besides its own, which its comma pays for.
  obtain ⟨fuel, rfl⟩ := Nat.exists_eq_add_of_lt (Nat.zero_lt_of_lt enough)
  rw [Nat.zero_add] at enough ⊢
  match spelled with
  | @ItemsSpelled.last item before core after fore spelled aft =>
    simp only [List.length_append] at enough
    have inside : 2 * core.length < fuel := by omega
    have scanned := scan_spelled spelled (.gap aft (.mark (.inr (.inl rfl)) rest)) inside
    simp [scanItems, scan_gap fore, scanned, skipGap_append aft, skipGap_token, isGap]
  | @ItemsSpelled.more item items before core after others fore spelled aft more =>
    simp only [List.length_append, List.length_cons] at enough
    have inside : 2 * core.length < fuel := by omega
    have behind : 2 * others.length + 1 < fuel := by omega
    have head :=
      scan_spelled spelled (.gap aft (.mark (.inl rfl) (others ++ ']' :: rest))) inside
    have tail := scanItems_spelled more rest behind
    have ⟨first, after, start, notBracket, _⟩ := more.starts (']' :: rest)
    simp [scanItems, scan_gap fore, head, skipGap_append aft, skipGap_token, isGap, start,
      notBracket, tail]
termination_by 2 * fuel

/-- What the scanner meets in a member: its key, the colon, and its value. -/
theorem scan_member {member : Outline × Outline} {chars rest : List Char} {fuel : Nat}
    (spelled : MemberSpelled member chars) (halts : Halts rest)
    (enough : 2 * chars.length < fuel) :
    ∃ key afterKey afterColon afterValue, member.1 = .text key ∧
      scan fuel (chars ++ rest) = (.text key, some afterKey) ∧
      skipGap afterKey = ':' :: afterColon ∧
      scan fuel afterColon = (member.2, some afterValue) ∧ skipGap afterValue = skipGap rest := by
  -- The key takes one unit of the fuel, so that there is one.
  obtain ⟨fuel, rfl⟩ := Nat.exists_eq_add_of_lt (Nat.zero_lt_of_lt enough)
  rw [Nat.zero_add] at enough ⊢
  match spelled with
  | @MemberSpelled.intro key value before name between behind core after fore named amid next
      spelled aft =>
    simp only [List.length_append, List.length_cons] at enough
    have inside : 2 * core.length < fuel + 1 := by omega
    have held := scan_spelled spelled (.gap aft halts) inside
    refine ⟨key, between ++ ':' :: (behind ++ (core ++ (after ++ rest))),
      -- A key, a gap, a colon, a gap, the value and a gap are met in this order.
      behind ++ (core ++ (after ++ rest)), after ++ rest, rfl, ?_, ?_, ?_, skipGap_append aft rest⟩
    · have scanned :=
        scan_string named fuel (between ++ ':' :: (behind ++ (core ++ (after ++ rest))))
      simp [scan_gap fore, scanned]
    · rw [skipGap_append amid, skipGap_token rfl]
    · rw [scan_gap next, held]
termination_by 2 * fuel + 1

/-- Members are scanned up to the end of their object. -/
theorem scanMembers_spelled {members : List (Outline × Outline)} {chars : List Char}
    {fuel : Nat} (spelled : MembersSpelled members chars) (rest : List Char)
    (enough : 2 * chars.length + 1 < fuel) :
    scanMembers fuel (chars ++ '\x7d' :: rest) = (members, .closed, some rest) := by
  -- The key and the value of a member are scanned with the same fuel.
  obtain ⟨fuel, rfl⟩ := Nat.exists_eq_add_of_lt (Nat.zero_lt_of_lt enough)
  rw [Nat.zero_add] at enough ⊢
  match spelled with
  | @MembersSpelled.last ⟨name, value⟩ chars spelled =>
    have inside : 2 * chars.length < fuel := by omega
    obtain ⟨key, afterKey, afterColon, afterValue, rfl, named, colon, held, onward⟩ :=
      scan_member spelled (.mark (.inr (.inr rfl)) rest) inside
    simp [scanMembers, named, colon, held, onward, skipGap_token, isGap]
  | @MembersSpelled.more ⟨name, value⟩ members chars others spelled more =>
    simp only [List.length_append, List.length_cons] at enough
    have inside : 2 * chars.length < fuel := by omega
    have behind : 2 * others.length + 1 < fuel := by omega
    obtain ⟨key, afterKey, afterColon, afterValue, rfl, named, colon, held, onward⟩ :=
      scan_member spelled (.mark (.inl rfl) (others ++ '\x7d' :: rest)) inside
    have tail := scanMembers_spelled more rest behind
    have ⟨first, after, start, _, _⟩ := more.starts ('\x7d' :: rest)
    simp [scanMembers, named, colon, held, onward, skipGap_token, isGap, start, tail]
termination_by 2 * fuel

end

/-- A text that spells one value is scanned as that value, with at most a gap left over. -/
theorem ofChars_spelledAlone {outline : Outline} {text : List Char}
    (spelled : SpelledAlone outline text) :
    ∃ rest, ofChars text = (outline, some rest) ∧ skipGap rest = [] := by
  obtain ⟨before, core, after, rfl, fore, spelled, aft⟩ := spelled
  refine ⟨after, ?_, skipGap_eq_nil aft⟩
  -- Behind the value there is at most a gap, where a number may end.
  have halts : Halts after := by
    have ended := Halts.nil.gap aft
    rwa [List.append_nil] at ended
  rw [ofChars, scan_gap fore]
  exact scan_spelled spelled halts (by simp only [List.length_append]; omega)

/-- No text spells two values. -/
theorem SpelledAlone.unique {one other : Outline} {text : List Char}
    (first : SpelledAlone one text) (second : SpelledAlone other text) : one = other := by
  -- The scanner gives one answer for a text, and it is each of the two values.
  obtain ⟨rest, scanned, -⟩ := ofChars_spelledAlone first
  obtain ⟨rest', again, -⟩ := ofChars_spelledAlone second
  rw [scanned] at again
  exact (Prod.mk.inj again).1

/-- The value of every spelled member is spelled. -/
theorem MembersSpelled.value {members : List (Outline × Outline)} {chars : List Char}
    (spelled : MembersSpelled members chars) :
    ∀ member ∈ members, ∃ core, Spelled member.2 core := by
  -- Recursion on the members, as they are spelled one after the other.
  match spelled with
  | .last (.intro _ _ _ _ held _) =>
    intro member listed
    cases List.mem_singleton.1 listed
    exact ⟨_, held⟩
  | .more (.intro _ _ _ _ held _) others =>
    intro member listed
    rcases List.mem_cons.1 listed with rfl | among
    · exact ⟨_, held⟩
    · exact others.value member among

/-- The value of every member of a spelled object is spelled. -/
theorem Spelled.member {members : List (Outline × Outline)} {core : List Char}
    (spelled : Spelled (.object members .closed) core) :
    ∀ member ∈ members, ∃ core, Spelled member.2 core := by
  -- In braces there are either no members or members that are spelled.
  cases spelled with
  | emptyObject blank => simp
  | object spelled => exact spelled.value

/-- A value without a gap around it is a whole text. -/
theorem Spelled.alone {outline : Outline} {core : List Char} (spelled : Spelled outline core) :
    SpelledAlone outline core := by
  -- The gaps on both sides are empty.
  refine ⟨[], core, [], by simp, ?_, spelled, ?_⟩
  all_goals
    intro c member
    cases member

mutual

/-- A skipper finds nothing wrong in a spelled value. -/
theorem skip_spelled {outline : Outline} {core : List Char} (spelled : Spelled outline core) :
    outline.skip = .ok () := by
  -- Recursion on the spelling, together with items and members: only broken values are complained
  -- of.
  match spelled with
  | .null => rw [skip]
  | .yes => rw [skip]
  | .no => rw [skip]
  | .numeral _ => rw [skip]
  | .text spelled =>
    cases spelled
    rw [skip]
  | .emptyList _ => simp [skip, skipItems, Ending.expectClosed, bind, Except.bind]
  | .list spelled => simp [skip, skipItems_spelled spelled, Ending.expectClosed, bind, Except.bind]
  | .emptyObject _ => simp [skip, skipMembers, Ending.expectClosed, bind, Except.bind]
  | .object spelled =>
    simp [skip, skipMembers_spelled spelled, Ending.expectClosed, bind, Except.bind]

/-- Nor in spelled items. -/
theorem skipItems_spelled {items : List Outline} {chars : List Char}
    (spelled : ItemsSpelled items chars) : skipItems items = .ok () := by
  -- The last item ends the list.
  match spelled with
  | .last _ spelled _ => simp [skipItems, skip_spelled spelled, bind, Except.bind]
  | .more _ spelled _ others =>
    simp [skipItems, skip_spelled spelled, skipItems_spelled others, bind, Except.bind]

/-- Nor in spelled members. -/
theorem skipMembers_spelled {members : List (Outline × Outline)} {chars : List Char}
    (spelled : MembersSpelled members chars) : skipMembers members = .ok () := by
  -- The key of a member is a string, so that it is none of the things that cannot be skipped.
  match spelled with
  | .last (.intro _ named _ _ spelled _) =>
    cases named
    simp [skipMembers, skip_spelled spelled, bind, Except.bind]
  | .more (.intro _ named _ _ spelled _) others =>
    cases named
    simp [skipMembers, skip_spelled spelled, skipMembers_spelled others, bind, Except.bind]

end

end Outline

/-- A decoder sees nothing of a text but the outline that it spells. -/
theorem decodeText_spelledAlone {text : String} {outline : Outline}
    (spelled : outline.SpelledAlone text.toList) (read : Nat → Outline → Decoded α) :
    decodeText read text = read nestingLimit outline := by
  obtain ⟨rest, scanned, nothing⟩ := Outline.ofChars_spelledAlone spelled
  -- What is left over is a gap, so that nothing more can fail.
  simp only [decodeText, scanned, Option.map_some, nothing, Option.getD_some, if_pos]
  cases read nestingLimit outline <;> rfl

end LogCourier
