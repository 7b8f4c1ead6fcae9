import LogCourier.Proofs.Text.Trimming
import LogCourier.Settings.Environment

/-! The notation of values in the environment: readers read it exactly and explain what fails. -/

namespace LogCourier

/-- Reading digits only makes a number larger. -/
theorem le_digitsValue (start : Nat) (run : List Char) : start ≤ digitsValue start run := by
  -- Each digit is added to ten times the number before it.
  induction run generalizing start with
  | nil => exact Nat.le_refl _
  | cons c rest ih =>
    have further := ih (10 * start + digitValue c)
    simp only [digitsValue, List.foldl_cons] at further ⊢
    omega

/-- Text that a number can be read from: decimal digits, with an optional plus sign before them. -/
def Numeric (text : List Char) (value : Nat) : Prop :=
  ∃ sign run, text = sign ++ run ∧ (sign = [] ∨ sign = ['+']) ∧ run ≠ [] ∧
    (∀ c ∈ run, isDigit c = true) ∧ digitsValue 0 run = value

/-- What keeps a text from being a whole number up to a bound. -/
inductive Blocks (bound : Nat) : List Char → DigitsFault → Prop where
  /-- There is nothing to read. -/
  | missing : Blocks bound [] .missing
  /-- A sign alone is no number. -/
  | signOnly : Blocks bound ['+'] .foreign
  /-- Something else stands behind the sign and digits that are within the bound. -/
  | foreign {sign run back : List Char} {c : Char} (signed : sign = [] ∨ sign = ['+'])
      (numeric : ∀ c ∈ run, isDigit c = true) (fits : digitsValue 0 run ≤ bound)
      (other : isDigit c = false) : Blocks bound (sign ++ run ++ c :: back) .foreign
  /-- The digits behind the sign exceed the bound, wherever they end. -/
  | tooLarge {sign run back : List Char} (signed : sign = [] ∨ sign = ['+'])
      (numeric : ∀ c ∈ run, isDigit c = true) (exceeds : bound < digitsValue 0 run) :
      Blocks bound (sign ++ run ++ back) .tooLarge

/-- Digits within the bound are read as their number. -/
theorem readBounded_ok_iff {bound start value : Nat} {run : List Char} (fits : start ≤ bound) :
    readBounded bound start run = .ok value ↔
      (∀ c ∈ run, isDigit c = true) ∧ digitsValue start run = value ∧ value ≤ bound := by
  -- The induction follows the digits, with the number that those before them stand for.
  induction run generalizing start with
  | nil =>
    simp only [readBounded, digitsValue, List.foldl_nil, List.not_mem_nil, false_implies,
      implies_true, true_and, Except.ok.injEq]
    constructor
    · rintro rfl
      exact ⟨rfl, fits⟩
    · exact And.left
  | cons c rest ih =>
    have further : digitsValue start (c :: rest) = digitsValue (10 * start + digitValue c) rest :=
      rfl
    rw [readBounded, further]
    split
    · next digit =>
      dsimp only
      split
      · next within => simp [ih within, digit]
      · next beyond =>
        -- What follows cannot bring the number down again.
        have grown := le_digitsValue (10 * start + digitValue c) rest
        simp only [reduceCtorEq, false_iff]
        omega
    · next other => simp [other]

/-- Reading fails at the first character that is no digit, or before it at the bound. -/
theorem readBounded_error {bound start : Nat} {run : List Char} {fault : DigitsFault}
    (fits : start ≤ bound) (fails : readBounded bound start run = .error fault) :
    (fault = .foreign ∧ ∃ front c back, run = front ++ c :: back ∧
      (∀ c ∈ front, isDigit c = true) ∧ digitsValue start front ≤ bound ∧ isDigit c = false) ∨
    (fault = .tooLarge ∧ ∃ front back, run = front ++ back ∧
      (∀ c ∈ front, isDigit c = true) ∧ bound < digitsValue start front) := by
  -- The induction follows the digits up to the fault.
  induction run generalizing start with
  | nil => cases fails
  | cons c rest ih =>
    rw [readBounded] at fails
    split at fails
    · next digit =>
      dsimp only at fails
      split at fails
      · next within =>
        -- The digit joins those in front of the fault.
        rcases ih within fails with ⟨named, front, d, back, rfl, digits, below, other⟩ |
          ⟨named, front, back, rfl, digits, beyond⟩
        · exact .inl ⟨named, c :: front, d, back, rfl, List.forall_mem_cons.2 ⟨digit, digits⟩,
            below, other⟩
        · exact .inr ⟨named, c :: front, back, rfl, List.forall_mem_cons.2 ⟨digit, digits⟩, beyond⟩
      · next beyond =>
        cases fails
        exact .inr ⟨rfl, [c], rest, rfl, by simpa using digit, Nat.not_le.1 beyond⟩
    · next other =>
      cases fails
      exact .inl ⟨rfl, [], c, rest, rfl, by simp, fits, by simpa using other⟩

/-- A text that is neither empty nor a sign alone is read digit by digit, behind its sign if it has
    one. -/
theorem parseBounded_cases (bound : Nat) (text : List Char) :
    (text = [] ∧ parseBounded bound text = .error .missing) ∨
    (text = ['+'] ∧ parseBounded bound text = .error .foreign) ∨
    ∃ sign run, text = sign ++ run ∧ (sign = ['+'] ∨ sign = [] ∧ run.head? ≠ some '+') ∧
      run ≠ [] ∧ parseBounded bound text = readBounded bound 0 run := by
  unfold parseBounded
  split
  · exact .inl ⟨rfl, rfl⟩
  · exact .inr (.inl ⟨rfl, rfl⟩)
  · next rest more =>
    exact .inr (.inr ⟨['+'], rest, rfl, .inl rfl, more, rfl⟩)
  · next empty _ unsigned =>
    -- The text starts with something other than a sign.
    refine .inr (.inr ⟨[], text, rfl, .inr ⟨rfl, fun plus => ?_⟩, empty, rfl⟩)
    obtain ⟨rest, rfl⟩ := List.head?_eq_some_iff.1 plus
    exact unsigned rest rfl

/-- A sign, if there is one, and the digits behind it are found again in a number. -/
theorem numeric_append_iff {sign run : List Char} {value : Nat}
    (split : sign = ['+'] ∨ sign = [] ∧ run.head? ≠ some '+') (more : run ≠ []) :
    Numeric (sign ++ run) value ↔
      (∀ c ∈ run, isDigit c = true) ∧ digitsValue 0 run = value := by
  have sorted : isDigit '+' = false := by decide
  constructor
  · rintro ⟨before, digits, same, signed, -, numeric, worth⟩
    -- A sign is no digit, so that both ways to part the text are the same.
    rcases split with rfl | ⟨rfl, unsigned⟩ <;> rcases signed with rfl | rfl
    · obtain rfl : '+' :: run = digits := same
      simp [sorted] at numeric
    · obtain rfl : run = digits := List.append_cancel_left same
      exact ⟨numeric, worth⟩
    · obtain rfl : run = digits := same
      exact ⟨numeric, worth⟩
    · obtain rfl : run = '+' :: digits := same
      exact absurd rfl unsigned
  · rintro ⟨numeric, worth⟩
    exact ⟨sign, run, rfl, split.symm.imp And.left id, more, numeric, worth⟩

/-- A number has a digit. -/
theorem Numeric.digit {text : List Char} {value : Nat} (number : Numeric text value) :
    ∃ c ∈ text, isDigit c = true := by
  -- The run of digits is not empty, whatever the sign.
  obtain ⟨sign, run, rfl, -, more, numeric, -⟩ := number
  obtain ⟨c, member⟩ := List.exists_mem_of_ne_nil run more
  exact ⟨c, List.mem_append_right sign member, numeric c member⟩

/-- Exactly the numbers up to the bound are read. -/
theorem parseBounded_ok_iff {bound value : Nat} {text : List Char} :
    parseBounded bound text = .ok value ↔ Numeric text value ∧ value ≤ bound := by
  rcases parseBounded_cases bound text with ⟨rfl, read⟩ | ⟨rfl, read⟩ |
    ⟨sign, run, rfl, split, more, read⟩
  -- An empty text and a sign alone have no digit.
  · rw [read]
    refine iff_of_false (by simp) fun ⟨number, _⟩ => ?_
    obtain ⟨c, member, -⟩ := number.digit
    cases member
  · rw [read]
    refine iff_of_false (by simp) fun ⟨number, _⟩ => ?_
    obtain ⟨c, member, digit⟩ := number.digit
    rw [List.mem_singleton.1 member] at digit
    exact absurd digit (by decide)
  · rw [read, readBounded_ok_iff (Nat.zero_le _), numeric_append_iff split more, and_assoc]

/-- A text of which no number is read has what keeps it from being one. -/
theorem blocks_of_parseBounded {bound : Nat} {text : List Char} {fault : DigitsFault}
    (fails : parseBounded bound text = .error fault) : Blocks bound text fault := by
  rcases parseBounded_cases bound text with ⟨rfl, read⟩ | ⟨rfl, read⟩ |
    ⟨sign, run, rfl, split, -, read⟩
  · cases read.symm.trans fails
    exact .missing
  · cases read.symm.trans fails
    exact .signOnly
  · -- The fault in the digits is one of the whole text, behind the same sign.
    have signed := split.symm.imp And.left id
    rcases readBounded_error (Nat.zero_le _) (read.symm.trans fails) with
      ⟨rfl, front, c, back, rfl, numeric, fits, other⟩ | ⟨rfl, front, back, rfl, numeric, exceeds⟩
    · rw [← List.append_assoc]
      exact .foreign signed numeric fits other
    · rw [← List.append_assoc]
      exact .tooLarge signed numeric exceeds

/-- A text that writes a number: blanks may stand around it. -/
def WritesNumber (raw : String) (value : Nat) : Prop :=
  ∃ core, Trims raw.toList core ∧ Numeric core value ∧ value < UInt64.size

/-- A text that writes a span: a number of milliseconds. -/
def WritesMillis (raw : String) (span : Span) : Prop :=
  ∃ count, WritesNumber raw count ∧ span = Span.ofMillis count

/-- A text that spells a name, in letters of either case, with blanks around it or not. -/
def Spells (raw name : String) : Prop :=
  ∃ core, Trims raw.toList core ∧ core.map Char.toLower = name.toList

/-- A text that writes a compression. -/
def WritesCompression (raw : String) : Compression → Prop
  | .none => Spells raw "none" ∨ Spells raw "identity"
  | .gzip => Spells raw "gzip"

/-- A text that writes a line format. -/
def WritesFormat (raw : String) : LineFormat → Prop
  | .text => Spells raw "text"
  | .json => Spells raw "json"

/-- A text that writes a switch position. -/
def WritesSwitch (raw : String) : Bool → Prop
  | true => Spells raw "1" ∨ Spells raw "true" ∨ Spells raw "yes" ∨ Spells raw "on"
  | false => Spells raw "0" ∨ Spells raw "false" ∨ Spells raw "no" ∨ Spells raw "off"

/-- A reader that reads exactly what a notation writes, and explains what it cannot read. -/
structure ReadsExactly (parse : String → Except String α) (Writes : String → α → Prop)
    (Explains : String → String → Prop) : Prop where
  reads : ∀ raw value, parse raw = .ok value ↔ Writes raw value
  explains : ∀ raw problem, parse raw = .error problem → Explains raw problem

/-- What is said of a text that writes no number. -/
def ExplainsNumber (raw problem : String) : Prop :=
  ∃ core fault, Trims raw.toList core ∧ Blocks (UInt64.size - 1) core fault ∧
    problem = fault.message

/-- Numbers are read as they are written. -/
theorem faithful_number : ReadsExactly parseNumber WritesNumber ExplainsNumber := by
  constructor
  · intro raw value
    have below : value < UInt64.size ↔ value ≤ 18446744073709551615 := Nat.lt_succ_iff
    -- The number is in the core, and there is one core.
    have core : WritesNumber raw value ↔
        Numeric (trimBlanks raw.toList) value ∧ value ≤ 18446744073709551615 := by
      simp only [WritesNumber, trims_iff, exists_eq_left', below]
    rw [core, ← parseBounded_ok_iff, parseNumber]
    cases parseBounded 18446744073709551615 (trimBlanks raw.toList) <;> simp [Except.mapError]
  · intro raw problem fails
    rw [parseNumber] at fails
    cases read : parseBounded 18446744073709551615 (trimBlanks raw.toList) with
    | ok value => simp [read, Except.mapError] at fails
    | error fault =>
      simp only [read, Except.mapError, Except.error.injEq] at fails
      exact ⟨_, fault, trims_trimBlanks _, blocks_of_parseBounded read, fails.symm⟩

/-- Spans are read as they are written. -/
theorem faithful_millis : ReadsExactly parseMillis WritesMillis ExplainsNumber := by
  constructor
  · -- A span is read exactly where a number is.
    intro raw span
    simp only [parseMillis, WritesMillis, ← faithful_number.reads]
    cases parseNumber raw <;> simp [Except.map, eq_comm]
  · intro raw problem fails
    refine faithful_number.explains raw problem ?_
    rw [parseMillis] at fails
    cases read : parseNumber raw with
    | ok value => simp [read, Except.map] at fails
    | error told => simpa [read, Except.map] using fails

/-- A small letter other than the one that the kelvin sign becomes is that of an ASCII letter. -/
theorem lowerForm_eq_iff {c small : Char} (plain : small ≠ 'k' ∧ small.toNat ≠ 0x212a) :
    lowerForm c = small ↔ c.toLower = small := by
  unfold lowerForm
  split
  · next kelvin =>
    -- The kelvin sign has no small letter in ASCII, and it is none itself.
    refine iff_of_false plain.1.symm fun same => plain.2 ?_
    have sign : c = '\u212a' := Char.toNat_inj.1 kelvin
    rw [← same, sign]
    decide
  · exact Iff.rfl

/-- Names without the letter that the kelvin sign becomes are spelled in ASCII. -/
theorem lowerName_eq_iff {core name : List Char}
    (plain : ∀ small ∈ name, small ≠ 'k' ∧ small.toNat ≠ 0x212a) :
    lowerName core = name ↔ core.map Char.toLower = name := by
  -- Letter by letter, the mapping is that of ASCII.
  induction name generalizing core with
  | nil => simp [lowerName]
  | cons small rest ih =>
    obtain ⟨first, others⟩ := List.forall_mem_cons.1 plain
    cases core with
    | nil => simp [lowerName]
    | cons c more =>
      have back := @ih more others
      simp only [lowerName] at back
      simp [lowerName, lowerForm_eq_iff first, back]

/-- A trimmed text in small letters is the name that it spells. -/
theorem spells_iff {raw name : String}
    (plain : ∀ small ∈ name.toList, small ≠ 'k' ∧ small.toNat ≠ 0x212a) :
    Spells raw name ↔ String.ofList (lowerName (trimBlanks raw.toList)) = name := by
  simp only [Spells, trims_iff, exists_eq_left', ← lowerName_eq_iff plain]
  -- A text and its list of characters are the same thing.
  constructor
  · intro same
    rw [same, String.ofList_toList]
  · intro same
    rw [← same, String.toList_ofList]

/-- Exactly the names of a compression are read as that compression. -/
theorem Compression.parse?_eq_some_iff {text : String} {choice : Compression} :
    parse? text = some choice ↔ WritesCompression text choice := by
  have nothing : Spells text "none" ↔ _ := spells_iff (by simp)
  have identity : Spells text "identity" ↔ _ := spells_iff (by simp)
  have gzip : Spells text "gzip" ↔ _ := spells_iff (by simp)
  rw [parse?]
  -- No name is the name of both.
  split <;> cases choice <;> simp_all [WritesCompression]

/-- Exactly the names of a line format are read as that format. -/
theorem LineFormat.parse?_eq_some_iff {text : String} {format : LineFormat} :
    parse? text = some format ↔ WritesFormat text format := by
  have plain : Spells text "text" ↔ _ := spells_iff (by simp)
  have json : Spells text "json" ↔ _ := spells_iff (by simp)
  rw [parse?]
  -- Neither name is the other's.
  split <;> cases format <;> simp_all [WritesFormat]

/-- Exactly the names of a switch position are read as that position. -/
theorem parseSwitch?_eq_some_iff {text : String} {wanted : Bool} :
    parseSwitch? text = some wanted ↔ WritesSwitch text wanted := by
  have one : Spells text "1" ↔ _ := spells_iff (by simp)
  have yes : Spells text "yes" ↔ _ := spells_iff (by simp)
  have truth : Spells text "true" ↔ _ := spells_iff (by simp)
  have on : Spells text "on" ↔ _ := spells_iff (by simp)
  have zero : Spells text "0" ↔ _ := spells_iff (by simp)
  have no : Spells text "no" ↔ _ := spells_iff (by simp)
  have falsehood : Spells text "false" ↔ _ := spells_iff (by simp)
  have off : Spells text "off" ↔ _ := spells_iff (by simp)
  rw [parseSwitch?]
  -- The four names of each position are none of the other's.
  split <;> cases wanted <;> simp_all [WritesSwitch]

/-- A text is trimmed once and for all. -/
theorem trims_trimmedText_iff {raw : String} {core : List Char} :
    Trims (trimmedText raw).toList core ↔ Trims raw.toList core := by
  -- The core of the core is the core itself.
  have core : Trims (trimBlanks raw.toList) (trimBlanks raw.toList) :=
    ⟨⟨[], [], by simp [Blanks], by simp [Blanks], by simp⟩, (trims_trimBlanks _).bare⟩
  rw [trims_iff, trims_iff, trimmedText, String.toList_ofList, core.eq]

/-- A trimmed text spells what it spelled before. -/
theorem spells_trimmedText_iff {raw name : String} :
    Spells (trimmedText raw) name ↔ Spells raw name := by
  simp only [Spells, trims_trimmedText_iff]

/-- A reader is faithful when it adds an explanation to one that reads exactly a notation. -/
theorem ReadsExactly.of_option {parse : String → Except String α} {Writes : String → α → Prop}
    (read : String → Option α) (failure : String → String)
    (exact : ∀ raw value, read raw = some value ↔ Writes raw value)
    (tries : ∀ raw, parse raw = (read raw).elim (.error (failure raw)) .ok) :
    ReadsExactly parse Writes fun raw problem => problem = failure raw := by
  -- Either the text is a notation and the reader finds its value, or there is only one thing to
  -- say.
  constructor
  · intro raw value
    rw [← exact, tries]
    cases read raw <;> simp
  · intro raw problem fails
    rw [tries] at fails
    cases found : read raw with
    | some value => simp [found] at fails
    | none => simpa [found, eq_comm] using fails

/-- Compressions are read as they are written. -/
theorem faithful_compression : ReadsExactly parseCompression WritesCompression
    fun raw problem => problem = Compression.parseFailure (trimmedText raw) := by
  refine .of_option (fun raw => Compression.parse? (trimmedText raw)) _ (fun raw choice => ?_)
    fun raw => ?_
  · -- The reader is given the trimmed text, and trims it once more.
    rw [Compression.parse?_eq_some_iff]
    cases choice <;> simp only [WritesCompression, spells_trimmedText_iff]
  · rw [parseCompression]
    cases Compression.parse? (trimmedText raw) <;> rfl

/-- Line formats are read as they are written. -/
theorem faithful_format : ReadsExactly parseLineFormat WritesFormat
    fun raw problem => problem = LineFormat.parseFailure (trimmedText raw) := by
  refine .of_option (fun raw => LineFormat.parse? (trimmedText raw)) _ (fun raw format => ?_)
    fun raw => ?_
  · -- Formats are compared in small letters, between the blanks.
    rw [LineFormat.parse?_eq_some_iff]
    cases format <;> simp only [WritesFormat, spells_trimmedText_iff]
  · rw [parseLineFormat]
    cases LineFormat.parse? (trimmedText raw) <;> rfl

/-- Switch positions are read as they are written. -/
theorem faithful_switch : ReadsExactly parseSwitch WritesSwitch
    fun _ problem => problem = "expected a boolean" := by
  -- The switch trims and compares by itself, so that only the explanation is added.
  refine .of_option parseSwitch? _ (fun raw wanted => parseSwitch?_eq_some_iff) fun raw => ?_
  rw [parseSwitch]
  cases parseSwitch? raw <;> rfl

end LogCourier
