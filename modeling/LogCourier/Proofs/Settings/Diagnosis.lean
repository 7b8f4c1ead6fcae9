import LogCourier.Proofs.Console.Lines
import LogCourier.Proofs.Settings.Precedence

/-! Diagnosis of the environment: of which variables the operator is told, and in which lines. -/

namespace LogCourier

variable {α : Type} {explicit : List Setting} {kind : α → Setting} {environment : Environment}

/-- A variable that was looked up in vain, of all that were. -/
def Faulty (explicit : List Setting) (environment : Environment) : Variable → Prop
  | .publishInterval =>
    Unreadable explicit .publishInterval (environment.text .publishInterval) WritesMillis
  | .maxBatch => Unreadable explicit .maxBatch (environment.text .maxBatch) WritesNumber
  | .minBatch => Unreadable explicit .minBatch (environment.text .minBatch) WritesNumber
  | .sendTimeout => Unreadable explicit .sendTimeout (environment.text .sendTimeout) WritesMillis
  | .compression =>
    Unreadable explicit .compression (environment.text .compression) WritesCompression
  | .echo => Unreadable explicit .echo (environment.text .echo) WritesSwitch
  | .lineFormat => Unreadable explicit .lineFormat (environment.text .lineFormat) WritesFormat
  -- Any text will do for an address or a name.
  | .endpoint | .sourceId | .appId | .serviceName => False

namespace Variable

/-- The variables of which the text is read, in the order in which they are looked up. -/
def parsed : List Variable :=
  [publishInterval, maxBatch, minBatch, sendTimeout, compression, echo, lineFormat]

/-- What is said of a text that writes no value of a variable. -/
def Explains : Variable → String → String → Prop
  | publishInterval | maxBatch | minBatch | sendTimeout => ExplainsNumber
  | compression => fun raw problem => problem = Compression.parseFailure (trimmedText raw)
  | echo => fun _ problem => problem = "expected a boolean"
  | lineFormat => fun raw problem => problem = LineFormat.parseFailure (trimmedText raw)
  | endpoint | sourceId | appId | serviceName => fun _ _ => False

/-- The variables of which the explanation repeats the text as it is. -/
def repeats : Variable → Bool
  | compression | lineFormat => true
  | _ => false

end Variable

/-- Notices about the faulty ones among some variables, one for each of them and in their order. -/
inductive Told (explicit : List Setting) (environment : Environment) :
    List Variable → List Notice → Prop where
  | nil : Told explicit environment [] []
  | fine {key : Variable} {keys : List Variable} {notices : List Notice}
      (fine : ¬ Faulty explicit environment key) (told : Told explicit environment keys notices) :
      Told explicit environment (key :: keys) notices
  | faulty {key : Variable} {keys : List Variable} {notices : List Notice} {raw problem : String}
      (faulty : Faulty explicit environment key) (present : environment.text key = some raw)
      (explains : key.Explains raw problem) (told : Told explicit environment keys notices) :
      Told explicit environment (key :: keys) (complaint key raw problem :: notices)

/-- What one more look-up tells comes before what the later ones tell. -/
theorem Yields.told {environment : Environment} {key : Variable} {Writes : String → α → Prop}
    {lookup : Lookup α} (yields : Yields explicit kind environment key Writes key.Explains lookup)
    (same : Faulty explicit environment key =
      Unreadable explicit kind (environment.text key) Writes)
    {keys : List Variable} {notices : List Notice} (told : Told explicit environment keys notices) :
    Told explicit environment (key :: keys) (lookup.notices ++ notices) := by
  -- A variable is told of exactly if it is faulty, and then in front of those behind it.
  rcases yields.notices with ⟨fine, silent⟩ | ⟨faulty, raw, problem, present, explains, notice⟩
  · rw [silent]
    exact .fine (same ▸ fine) told
  · rw [notice]
    exact .faulty (same ▸ faulty) present explains told

/-- Resolving tells of every faulty variable, and of nothing else. -/
theorem told_resolve (explicit : List Setting) (environment : Environment) :
    Told explicit environment Variable.parsed
      ((Options.ofSettings explicit).resolve environment).2 := by
  obtain ⟨-, -, -, -, publishInterval, minBatch, maxBatch, sendTimeout, compression, echo,
    lineFormat, -⟩ := options_record
  -- The look-ups are taken from the last one to the first one.
  have told := (lineFormat.yields faithful_format explicit environment .lineFormat).told rfl .nil
  have told := (echo.yields faithful_switch explicit environment .echo).told rfl told
  have told :=
    (compression.yields faithful_compression explicit environment .compression).told rfl told
  have told :=
    (sendTimeout.yields faithful_millis explicit environment .sendTimeout).told rfl told
  have told := (minBatch.yields faithful_number explicit environment .minBatch).told rfl told
  have told := (maxBatch.yields faithful_number explicit environment .maxBatch).told rfl told
  have told :=
    (publishInterval.yields faithful_millis explicit environment .publishInterval).told rfl told
  simpa only [Options.resolve, Variable.parsed, List.append_assoc, List.append_nil] using told

/-- Hexadecimal digits are printable. -/
theorem printable_hexDigits (value : Nat) : Printable (hexDigits value) := by
  -- The digits of the sixteenth part come first.
  induction value using Nat.strongRecOn with
  | ind value ih =>
    rw [hexDigits]
    split
    · next small => simpa using Json.printable_hexDigit value small
    · next large =>
      have front := ih (value / 16) (by omega)
      have last := Json.printable_hexDigit (value % 16) (Nat.mod_lt value (by decide))
      simp [front, last]

/-- Between the quotes of a diagnostic every line break is spelled out. -/
@[simp] theorem breaks_quoted (text : String) : breaks (quoted text) = [] := by
  have inside (c : Char) : (quotedChar c).filter isBreak = [] := by
    unfold quotedChar
    split
    -- The characters with an escape of one letter.
    iterate 6 rfl
    · next turn feed _ _ =>
      split
      · -- A hidden character becomes printable digits between marks.
        have digits : breaks (String.ofList (hexDigits c.toNat)) = [] :=
          Printable.breaks (by simpa using printable_hexDigits c.toNat)
        rw [breaks, String.toList_ofList] at digits
        rw [List.filter_append, List.filter_append, digits]
        rfl
      · -- What stays as it is was no break.
        have other : isBreak c = false := by
          simp only [isBreak, Bool.or_eq_false_iff, decide_eq_false_iff_not]
          exact ⟨feed, turn⟩
        simp [other]
  rw [breaks, quoted, String.toList_ofList, List.filter_append, List.filter_cons_of_neg (by decide),
    List.filter_flatMap, List.flatMap_eq_nil_iff.2 fun c _ => inside c]
  rfl

/-- A text behind one without line breaks has its own breaks only. -/
theorem breaks_behind {front : String} (plain : breaks front = []) (text : String) :
    breaks (front ++ text) = breaks text := by
  rw [breaks_append, plain, List.nil_append]

/-- A text between two without line breaks has its own breaks only. -/
theorem breaks_between {front back : String} (plain : breaks front = []) (bare : breaks back = [])
    (text : String) : breaks (front ++ text ++ back) = breaks text := by
  rw [breaks_append, breaks_behind plain, bare, List.append_nil]

/-- An explanation breaks its line exactly where it repeats a text that does. -/
theorem Variable.Explains.breaks_eq {key : Variable} {raw problem : String}
    (explains : key.Explains raw problem) :
    breaks problem = if key.repeats then breaks (trimmedText raw) else [] := by
  -- The faults of numbers and switches are told in fixed words.
  have number (explains : ExplainsNumber raw problem) : breaks problem = [] := by
    obtain ⟨core, fault, -, -, rfl⟩ := explains
    cases fault <;> decide
  cases key with
  | publishInterval | maxBatch | minBatch | sendTimeout => exact number explains
  | echo =>
    cases explains
    exact show breaks "expected a boolean" = [] by decide
  -- The others stand around the text that they repeat.
  | compression =>
    cases explains
    exact breaks_between (by decide) (by decide) _
  | lineFormat =>
    cases explains
    exact breaks_between (by decide) (by decide) _
  | endpoint | sourceId | appId | serviceName => exact explains.elim

/-- A notice that is told in one line. -/
def Notice.IsLine (notice : Notice) : Prop :=
  ∃ line, OneLine line ∧ notice.text = line ++ "\n"

/-- The line breaks of a complaint are those of its explanation and the one at its end. -/
theorem breaks_line_complaint (key : Variable) (raw problem : String) :
    breaks (Notice.warning ++ (DeliveryError.invalidSetting key.name
      ("ignoring " ++ quoted raw ++ ": " ++ problem)).message) = breaks problem := by
  have name : breaks key.name = [] := by cases key <;> decide
  have blamed : breaks ("Invalid configuration for " ++ key.name ++ ": ") = [] :=
    (breaks_between (by decide) (by decide) _).trans name
  have ignored : breaks ("ignoring " ++ quoted raw ++ ": ") = [] :=
    (breaks_between (by decide) (by decide) _).trans (breaks_quoted raw)
  -- The mark, the blame and the repeated text stand in front of the explanation.
  exact ((breaks_behind (by decide) _).trans (breaks_behind blamed _)).trans
    (breaks_behind ignored _)

/-- A complaint is told in its message, marked as a warning and ended. -/
theorem text_complaint (key : Variable) (raw problem : String) :
    (complaint key raw problem).text =
      Notice.warning ++ (DeliveryError.invalidSetting key.name
        ("ignoring " ++ quoted raw ++ ": " ++ problem)).message ++ "\n" :=
  String.empty_append

/-- A complaint takes one line exactly when its explanation does. -/
theorem isLine_complaint_iff {key : Variable} {raw problem : String} :
    (complaint key raw problem).IsLine ↔ breaks problem = [] := by
  rw [← breaks_line_complaint key raw problem, ← oneLine_iff, Notice.IsLine, text_complaint]
  constructor
  · -- The line is what stands before the break at the end.
    rintro ⟨line, single, same⟩
    rwa [(String.append_left_inj _).1 same]
  · intro single
    exact ⟨_, single, rfl⟩

/-- Every faulty variable takes one line of the operator's, unless it is one whose text is repeated
    and that text breaks the line. -/
theorem Told.lines {keys : List Variable} {notices : List Notice}
    (told : Told explicit environment keys notices) :
    (∀ notice ∈ notices, notice.IsLine) ↔
      ∀ key ∈ keys, key.repeats = true → Faulty explicit environment key →
        ∀ raw, environment.text key = some raw → OneLine (trimmedText raw) := by
  -- The induction follows the variables in the order in which they are looked up.
  induction told with
  | nil => simp
  | fine fine _ ih => simp [ih, fine]
  | @faulty key keys notices raw problem faulty present explains told ih =>
    have line : (complaint key raw problem).IsLine ↔
        (key.repeats = true → OneLine (trimmedText raw)) := by
      rw [isLine_complaint_iff, explains.breaks_eq, oneLine_iff]
      cases key.repeats <;> simp
    simp [ih, line, faulty, present]

/-- What resolving comes to: the settings, and what the operator is told on the way. -/
structure Precedence (explicit : List Setting) (environment : Environment) (settings : Settings)
    (notices : List Notice) : Prop where
  resolved : Resolved explicit environment settings
  hidden : ∀ blank, Blanks blank.toList →
    (Last explicit .endpoint (some blank) → settings.endpoint = none) ∧
    (Last explicit .sourceId (some blank) → settings.origin.sourceId = none) ∧
    (Last explicit .appId (some blank) → settings.origin.appId = none) ∧
    (Last explicit .serviceName (some blank) → settings.origin.serviceName = none)
  told : Told explicit environment Variable.parsed notices
  lines : (∀ notice ∈ notices, notice.IsLine) ↔
    ∀ key raw, key.repeats = true → Faulty explicit environment key →
      environment.text key = some raw → OneLine (trimmedText raw)

/-- Every value comes from the last explicit setting, else from a variable that writes it, else from
    the defaults, and then is kept within its limits. The operator is told of each faulty variable
    once, in one line unless the explanation repeats a text that breaks it. -/
theorem resolve_precedence (explicit : List Setting) (environment : Environment) :
    Precedence explicit environment
      ((Options.ofSettings explicit).resolve environment).1
      ((Options.ofSettings explicit).resolve environment).2 := by
  have resolved := resolved_resolve explicit environment
  have told := told_resolve explicit environment
  refine ⟨resolved, fun blank empty => resolved.hidden empty, told, told.lines.trans ?_⟩
  constructor
  · intro whole key raw repeated faulty present
    -- The variables that are repeated are among those that are read.
    have read : key ∈ Variable.parsed := by
      cases key <;> first | decide | cases repeated
    exact whole key read repeated faulty raw present
  · intro whole key _ repeated faulty raw present
    exact whole key raw repeated faulty present

/-- An environment that names a compression in two lines. -/
def Environment.broken : Environment :=
  fun name => if name = "LOG_SHIPPER_COMPRESSION" then some "a\nb" else none

/-- The one notice about the broken environment takes two lines. -/
theorem broken_not_isLine :
    ∃ notice, ((Options.ofSettings []).resolve Environment.broken).2 = [notice] ∧
      breaks notice.text = ['\n', '\n'] := by
  -- Nothing but the compression is looked up with success.
  have absent (key : Variable) (other : key ≠ .compression) :
      Environment.broken.text key = none := by
    cases key <;> first | rfl | exact absurd rfl other
  have present : Environment.broken.text .compression = some "a\nb" := rfl
  have fails : parseCompression "a\nb" = .error (Compression.parseFailure "a\nb") := by rfl
  refine ⟨complaint .compression "a\nb" (Compression.parseFailure "a\nb"), ?_, ?_⟩
  · simp [Options.resolve, Options.ofSettings, Options.none, Environment.lookUp, absent, present,
      fails, complaint]
  · -- The explanation repeats the break of the text, and the other one ends the notice.
    have repeated : breaks (Compression.parseFailure "a\nb") = ['\n'] :=
      (breaks_between (by decide) (by decide) _).trans (by decide)
    have ended : breaks "\n" = ['\n'] := by decide
    rw [text_complaint, breaks_append, breaks_line_complaint, repeated, ended]
    rfl

end LogCourier
