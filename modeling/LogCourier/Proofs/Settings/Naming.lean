import LogCourier.Proofs.Settings.Notation
import LogCourier.Severity

/-! Names in texts: choices are found under exactly their names, severities with one letter more. -/

namespace LogCourier

/-- A text that writes a severity. -/
def WritesSeverity (raw : String) : Severity → Prop
  | .trace => Spells raw "trace"
  | .debug => Spells raw "debug"
  | .info => Spells raw "info"
  | .warn => Spells raw "warn" ∨ Spells raw "warning"
  | .error => Spells raw "error"

/-- The letter that a dotless i is taken for. -/
def dottedForm (c : Char) : Char :=
  if c = 'ı' then 'i' else c

/-- A text with a dot on every dotless i. -/
def dotted (text : String) : String :=
  String.ofList (text.toList.map dottedForm)

/-- A text that has something other than ASCII between the blanks at its ends. -/
def Foreign (text : String) : Prop :=
  ∃ core, Trims text.toList core ∧ ∃ c ∈ core, 127 < c.toNat

/-- A capital name that no character expands into: the ligatures have the long s in them, or an f
    before another f, an i or an l. -/
def unligated : List Char → Bool
  | [] => true
  | c :: rest =>
    c.isUpper && c != 'S' && (c != 'F' || (rest.head?.all fun d => d ∉ ['F', 'I', 'L'])) &&
      unligated rest

/-- The number of a capital. -/
theorem toNat_toUpper (c : Char) :
    c.toUpper.toNat = if 97 ≤ c.toNat ∧ c.toNat ≤ 122 then c.toNat - 32 else c.toNat := by
  have range : ('a'.val ≤ c.val ∧ c.val ≤ 'z'.val) ↔ 97 ≤ c.toNat ∧ c.toNat ≤ 122 := Iff.rfl
  unfold Char.toUpper
  simp only [range]
  -- Only the small letters of ASCII have another capital.
  split
  · next small =>
    rw [Char.toNat_mk, UInt32.toNat_add, Char.toNat_val]
    -- The distance is subtracted by adding its complement.
    have shift : ('A'.val - 'a'.val).toNat = 4294967264 := rfl
    omega
  · rfl

/-- The number of a small letter. -/
theorem toNat_toLower (c : Char) :
    c.toLower.toNat = if 65 ≤ c.toNat ∧ c.toNat ≤ 90 then c.toNat + 32 else c.toNat := by
  have range : ('A'.val ≤ c.val ∧ c.val ≤ 'Z'.val) ↔ 65 ≤ c.toNat ∧ c.toNat ≤ 90 := Iff.rfl
  unfold Char.toLower
  simp only [ge_iff_le, range]
  -- Only the capitals of ASCII have another small letter.
  split
  · next capital =>
    rw [Char.toNat_mk, UInt32.toNat_add, Char.toNat_val]
    have shift : ('a'.val - 'A'.val).toNat = 32 := rfl
    omega
  · rfl

/-- Capitals are known by their numbers. -/
theorem isUpper_iff_toNat (c : Char) : c.isUpper = true ↔ 65 ≤ c.toNat ∧ c.toNat ≤ 90 :=
  decide_eq_true_iff

/-- A character has a letter as its capital exactly if its small letter is that of the letter. -/
theorem toUpper_eq_iff {c capital : Char} (upper : capital.isUpper = true) :
    c.toUpper = capital ↔ c.toLower = capital.toLower := by
  -- As numbers, both sides say that the character is the letter or 32 above it.
  have range := (isUpper_iff_toNat capital).1 upper
  rw [← Char.toNat_inj, ← Char.toNat_inj, toNat_toUpper, toNat_toLower, toNat_toLower,
    if_pos range]
  split <;> split <;> omega

/-- What characters become in capitals: the capital of their dotted form, unless they are the long s
    or a ligature, which are no letters of ASCII and become an s or an f with another letter. -/
theorem upperForm_cases (c : Char) :
    upperForm c = [(dottedForm c).toUpper] ∨
    (dottedForm c).toUpper.isUpper = false ∧
      ((∃ more, upperForm c = 'S' :: more) ∨
        ∃ d more, d ∈ ['F', 'I', 'L'] ∧ upperForm c = 'F' :: d :: more) := by
  -- Outside ASCII a character has no capital there, unless it is the dotless i.
  have outside {code : Nat} (same : c.toNat = code) (far : 127 < code ∧ code ≠ 0x131) :
      (dottedForm c).toUpper.isUpper = false := by
    have other : c ≠ 'ı' := fun dotless => far.2 (same.symm.trans (congrArg Char.toNat dotless))
    have unchanged : c.toUpper.toNat = c.toNat := by
      rw [toNat_toUpper, if_neg (by omega)]
    rw [dottedForm, if_neg other, Char.toNat_inj.1 unchanged]
    refine Bool.eq_false_iff.2 fun upper => ?_
    have range := (isUpper_iff_toNat c).1 upper
    omega
  unfold upperForm
  split
  case h_1 same =>
    obtain rfl : c = 'ı' := Char.toNat_inj.1 same
    exact .inl rfl
  case h_11 dotless _ _ _ _ _ _ _ _ _ =>
    have other : c ≠ 'ı' := fun same => dotless (congrArg Char.toNat same)
    rw [dottedForm, if_neg other]
    exact .inl rfl
  all_goals
    next same =>
      refine .inr ⟨outside same (by decide), ?_⟩
      first
      | exact .inl ⟨_, rfl⟩
      | exact .inr ⟨_, _, by decide, rfl⟩

/-- A name without ligatures is that of a text in capitals exactly if the small letters of the text,
    dots added, are those of the name. -/
theorem upperName_eq_iff {core name : List Char} (plain : unligated name = true) :
    upperName core = name ↔ (core.map dottedForm).map Char.toLower = name.map Char.toLower := by
  -- Letter by letter: what expands into several letters is not in the name, and neither is its
  -- first letter.
  induction core generalizing name with
  | nil => simp [upperName, eq_comm]
  | cons c more ih =>
    rw [upperName, List.flatMap_cons, ← upperName]
    cases name with
    | nil =>
      have some : upperForm c ≠ [] := by
        rcases upperForm_cases c with one | ⟨-, ⟨rest, several⟩ | ⟨d, rest, -, several⟩⟩ <;>
          simp [*]
      simp [some]
    | cons capital rest =>
      simp only [unligated, Bool.and_eq_true, bne_iff_ne, ne_eq, Bool.or_eq_true] at plain
      obtain ⟨⟨⟨upper, unlike⟩, single⟩, further⟩ := plain
      rw [List.map_cons, List.map_cons, List.map_cons, List.cons.injEq, ← toUpper_eq_iff upper,
        ← ih further]
      rcases upperForm_cases c with one | ⟨foreign, several⟩
      · rw [one, List.singleton_append, List.cons.injEq]
      · refine iff_of_false (fun same => ?_) fun same => ?_
        · rcases several with ⟨tail, several⟩ | ⟨d, tail, joined, several⟩
          · rw [several, List.cons_append, List.cons.injEq] at same
            exact unlike same.1.symm
          · rw [several, List.cons_append, List.cons_append, List.cons.injEq] at same
            obtain ⟨rfl, rfl⟩ := same
            -- The name has such a letter behind its f, which no name without ligatures has.
            have apart := single.resolve_left (not_not_intro rfl)
            simp only [List.head?_cons, Option.all_some, decide_eq_true_eq] at apart
            exact apart joined
        · rw [same.1] at foreign
          exact absurd (upper.symm.trans foreign) (by decide)

/-- Blanks are no dotless i, nor do they become one another's. -/
theorem isBlank_dottedForm (c : Char) : isBlank (dottedForm c) = isBlank c := by
  rw [dottedForm]
  -- Only the dotless i is changed, and neither it nor the i is a blank.
  split
  · next same =>
    rw [same]
    decide
  · rfl

/-- Trimming leaves the dots where they are. -/
theorem trimBlanks_map_dottedForm (text : List Char) :
    trimBlanks (text.map dottedForm) = (trimBlanks text).map dottedForm := by
  have same : isBlank ∘ dottedForm = isBlank := funext isBlank_dottedForm
  simp only [trimBlanks, trimEnd, List.dropWhile_map, ← List.map_reverse, same]

/-- With its dots added, a text spells a name if in capitals it is the name in capitals. -/
theorem spells_dotted_iff (raw name capitals : String) (plain : unligated capitals.toList = true)
    (small : capitals.toList.map Char.toLower = name.toList) :
    Spells (dotted raw) name ↔
      String.ofList (upperName (trimBlanks raw.toList)) = capitals := by
  simp only [Spells, trims_iff, exists_eq_left', dotted, String.toList_ofList,
    trimBlanks_map_dottedForm, ← small, ← upperName_eq_iff plain]
  -- Both directions compare the texts between the blanks, as lists and as strings.
  constructor
  · intro same
    rw [same, String.ofList_toList]
  · intro same
    rw [← same, String.toList_ofList]

/-- Exactly the names of a severity are read as that severity, the dots on the i not counting. -/
theorem Severity.parse?_eq_some_iff {text : String} {level : Severity} :
    parse? text = some level ↔ WritesSeverity (dotted text) level := by
  have trace := spells_dotted_iff text "trace" "TRACE" (by decide) (by decide)
  have debug := spells_dotted_iff text "debug" "DEBUG" (by decide) (by decide)
  have info := spells_dotted_iff text "info" "INFO" (by decide) (by decide)
  have warn := spells_dotted_iff text "warn" "WARN" (by decide) (by decide)
  have warning := spells_dotted_iff text "warning" "WARNING" (by decide) (by decide)
  have error := spells_dotted_iff text "error" "ERROR" (by decide) (by decide)
  rw [parse?]
  -- No name is the name of two severities.
  split <;> cases level <;> simp_all [WritesSeverity]

/-- Each character of a text that spells an ASCII name is in ASCII. -/
theorem Spells.not_foreign {raw name : String} (spelled : Spells raw name)
    (plain : name.toList.all (·.toNat ≤ 127) = true) : ¬Foreign raw := by
  rintro ⟨core, trims, c, member, beyond⟩
  obtain ⟨found, cut, same⟩ := spelled
  obtain rfl : core = found := trims.eq.symm.trans cut.eq
  -- The small letter of a character is no smaller than the character itself.
  have within := List.all_eq_true.mp plain c.toLower (same ▸ List.mem_map_of_mem member)
  rw [decide_eq_true_eq, toNat_toLower] at within
  split at within <;> omega

/-- A text that writes a severity has only ASCII between its blanks. -/
theorem WritesSeverity.not_foreign {raw : String} {level : Severity}
    (written : WritesSeverity raw level) : ¬Foreign raw := by
  -- All the names of severities are in ASCII, and warnings have two.
  cases level with
  | trace => exact Spells.not_foreign written (by decide)
  | debug => exact Spells.not_foreign written (by decide)
  | info => exact Spells.not_foreign written (by decide)
  | warn => exact written.elim (·.not_foreign (by decide)) (·.not_foreign (by decide))
  | error => exact Spells.not_foreign written (by decide)

/-- A text that writes a compression has only ASCII between its blanks. -/
theorem WritesCompression.not_foreign {raw : String} {choice : Compression}
    (written : WritesCompression raw choice) : ¬Foreign raw := by
  -- The lack of a compression has two names.
  cases choice with
  | none => exact written.elim (·.not_foreign (by decide)) (·.not_foreign (by decide))
  | gzip => exact Spells.not_foreign written (by decide)

/-- A text that writes a line format has only ASCII between its blanks. -/
theorem WritesFormat.not_foreign {raw : String} {format : LineFormat}
    (written : WritesFormat raw format) : ¬Foreign raw := by
  cases format with
  | text => exact Spells.not_foreign written (by decide)
  | json => exact Spells.not_foreign written (by decide)

/-- A text without a dotless i has no dot to be added. -/
theorem dotted_of_not_mem {text : String} (absent : 'ı' ∉ text.toList) : dotted text = text := by
  -- Nothing but a dotless i is changed by adding dots.
  have same : text.toList.map dottedForm = text.toList.map id := by
    refine List.map_congr_left fun c member => ?_
    have other : c ≠ 'ı' := fun dotless => absent (dotless ▸ member)
    rw [dottedForm, if_neg other, id]
  rw [dotted, same, List.map_id, String.ofList_toList]

/-- A dotless i is foreign wherever it stands. -/
theorem foreign_of_mem {text : String} (present : 'ı' ∈ text.toList) : Foreign text := by
  obtain ⟨⟨front, back, before, behind, whole⟩, bare⟩ := trims_trimBlanks text.toList
  refine ⟨trimBlanks text.toList, ⟨⟨front, back, before, behind, whole⟩, bare⟩, 'ı', ?_, by decide⟩
  -- It is no blank, so that trimming keeps it.
  have seen : isBlank 'ı' = false := by decide
  rw [whole, List.mem_append, List.mem_append] at present
  rcases present with (early | within) | late
  · exact absurd (before _ early) (by simp [seen])
  · exact within
  · exact absurd (behind _ late) (by simp [seen])

/-- What a reader answers to a text: the value that is written there, or that there is none, with
    the text repeated as it is. -/
structure Recognizes (read : String → Except String α) (Writes : α → Prop) (before behind : String)
    (text : String) : Prop where
  finds : ∀ value, read text = .ok value ↔ Writes value
  refuses : ∀ problem, read text = .error problem ↔
    problem = before ++ text ++ behind ∧ ¬∃ value, Writes value

/-- A reader answers so when it says what it finds, and else what is to be said. -/
theorem Recognizes.of_option {read : String → Except String α} {Writes : α → Prop}
    {before behind text : String} (found : Option α)
    (exact : ∀ value, found = some value ↔ Writes value)
    (tries : read text = found.elim (.error (before ++ text ++ behind)) .ok) :
    Recognizes read Writes before behind text := by
  -- What is found and what is said are the two ways the reader ends.
  constructor
  · intro value
    rw [tries, ← exact]
    cases found <;> simp
  · intro problem
    simp only [tries, ← exact]
    cases found <;> simp [eq_comm]

/-- Compressions and line formats are read in a text exactly where one of their names stands there,
    in ASCII letters of either case and with blanks around it. Severities are read as if there were
    a dot on each dotless i, and so exactly under their names unless a name stands there but for
    the dots. Else the answer repeats the text, which has no other foreign character in a name. -/
theorem names_read (text : String) :
    Recognizes Severity.ofText (WritesSeverity (dotted text)) "Invalid log level: '" "'" text ∧
    Recognizes Compression.ofText (WritesCompression text) "Invalid compression: '"
      "' (expected gzip or none)" text ∧
    Recognizes LineFormat.ofText (WritesFormat text) "Invalid console format: '"
      "' (expected text or json)" text ∧
    (Recognizes Severity.ofText (WritesSeverity text) "Invalid log level: '" "'" text ↔
      ¬('ı' ∈ text.toList ∧ ∃ level, WritesSeverity (dotted text) level)) ∧
    ¬(Foreign (dotted text) ∧ ∃ level, WritesSeverity (dotted text) level) ∧
    ¬(Foreign text ∧ ((∃ choice, WritesCompression text choice) ∨
      ∃ format, WritesFormat text format)) := by
  have severity : Recognizes Severity.ofText (WritesSeverity (dotted text))
      "Invalid log level: '" "'" text :=
    .of_option _ (fun _ => Severity.parse?_eq_some_iff) rfl
  refine ⟨severity, .of_option _ (fun _ => Compression.parse?_eq_some_iff) rfl,
    .of_option _ (fun _ => LineFormat.parse?_eq_some_iff) rfl, ⟨?misread, ?plain⟩,
    fun ⟨foreign, _, written⟩ => written.not_foreign foreign, ?foreign⟩
  case misread =>
    rintro strict ⟨present, level, written⟩
    -- What is found under a name with a dotless i is not written there.
    have found := (severity.finds level).2 written
    exact ((strict.finds level).1 found).not_foreign (foreign_of_mem present)
  case plain =>
    intro apart
    by_cases present : 'ı' ∈ text.toList
    · -- Nothing is found in such a text, and nothing is written there.
      have nothing (level) : ¬WritesSeverity (dotted text) level :=
        fun written => apart ⟨present, level, written⟩
      have unwritten (level) : ¬WritesSeverity text level :=
        fun written => written.not_foreign (foreign_of_mem present)
      exact ⟨fun level => (severity.finds level).trans
          (iff_of_false (nothing level) (unwritten level)),
        fun problem => (severity.refuses problem).trans (by simp [nothing, unwritten])⟩
    · rwa [dotted_of_not_mem present] at severity
  case foreign =>
    rintro ⟨foreign, ⟨_, written⟩ | ⟨_, written⟩⟩
    · exact written.not_foreign foreign
    · exact written.not_foreign foreign

/-- A text with a dotless i is read as a severity that is not written there. -/
theorem dotless_misread :
    Severity.ofText "ınfo" = .ok .info ∧ ¬∃ level, WritesSeverity "ınfo" level := by
  refine ⟨by decide, fun ⟨level, written⟩ => ?_⟩
  exact written.not_foreign (foreign_of_mem (by decide))

end LogCourier
