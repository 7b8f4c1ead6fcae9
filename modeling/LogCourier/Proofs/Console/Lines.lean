import LogCourier.Console
import LogCourier.Proofs.Text.Printable

/-! Line breaks in the line of an event: which texts can bring them in, and which cannot. -/

namespace LogCourier

/-- The characters after which a reader sees a new line. -/
def isBreak (c : Char) : Bool :=
  c = '\n' || c = '\r'

/-- The line breaks of a text, in the order in which they stand. -/
def breaks (text : String) : List Char :=
  text.toList.filter isBreak

/-- A text that a reader sees as one line. -/
def OneLine (text : String) : Prop :=
  '\n' ∉ text.toList ∧ '\r' ∉ text.toList

/-- A text is one line when it has no line breaks. -/
theorem oneLine_iff (text : String) : OneLine text ↔ breaks text = [] := by
  simp only [breaks, List.filter_eq_nil_iff, isBreak, Bool.or_eq_true, decide_eq_true_eq, not_or]
  constructor
  · -- A character of the text is neither break, for both are outside it.
    rintro ⟨feed, turn⟩ c member
    exact ⟨fun same => feed (same ▸ member), fun same => turn (same ▸ member)⟩
  · intro apart
    exact ⟨fun member => (apart _ member).1 rfl, fun member => (apart _ member).2 rfl⟩

/-- The breaks of a text are those of its two parts. -/
@[simp] theorem breaks_append (front back : String) :
    breaks (front ++ back) = breaks front ++ breaks back := by
  simp [breaks]

/-- The breaks of joined texts are those of each text in turn. -/
@[simp] theorem breaks_join (texts : List String) :
    breaks (String.join texts) = texts.flatMap breaks := by
  rw [breaks, String.toList_join, List.filter_flatMap]
  rfl

/-- Separators without breaks leave only those of the separated texts. -/
theorem breaks_intercalate {separator : String} (plain : breaks separator = [])
    (texts : List String) :
    breaks (String.intercalate separator texts) = texts.flatMap breaks := by
  -- The induction follows the texts, of which the last has no separator behind it.
  induction texts with
  | nil => rfl
  | cons first rest ih =>
    cases rest with
    | nil => simp
    | cons second others =>
      rw [String.intercalate_cons_cons, breaks_append, breaks_append, plain, ih]
      simp

/-- Printable texts have no breaks. -/
theorem Printable.breaks {text : String} (printable : Printable text.toList) :
    breaks text = [] := by
  -- Both breaks are below the space.
  rw [← oneLine_iff]
  exact ⟨fun feed => absurd (printable _ feed) (by decide),
    fun turn => absurd (printable _ turn) (by decide)⟩

/-- A text of which the line breaks are spelled out has none left. -/
@[simp] theorem breaks_spelledOut (message : String) : breaks (spelledOut message) = [] := by
  simp only [breaks, spelledOut, String.toList_ofList, List.filter_flatMap,
    List.flatMap_eq_nil_iff]
  intro c _
  split
  -- A break or a tab becomes a backslash and a letter.
  · rfl
  · rfl
  · rfl
  · -- What stays as it is was no break.
    next feed turn _ =>
      have other : isBreak c = false := by
        simp only [isBreak, Bool.or_eq_false_iff, decide_eq_false_iff_not]
        exact ⟨feed, turn⟩
      simp [other]

/-- The text that an attribute holds, if it holds one. -/
def Field.text? : Field → Option String
  | .text value => some value
  | _ => none

/-- The texts that a line for people repeats as they were given: the label of the origin, the keys
    and texts of the attributes, and the kind of an error. -/
def Event.verbatim (event : Event) : List String :=
  event.origin.label ::
    (event.attributes.entries.flatMap (fun entry => entry.1 :: entry.2.text?.toList) ++
      (event.failure.bind Failure.kind).toList)

/-- The breaks of a displayed value are those of the text that it holds. -/
@[simp] theorem Field.breaks_display (value : Field) :
    breaks value.display = value.text?.toList.flatMap breaks := by
  cases value with
  | text value => simp [display, text?]
  -- Numbers are printable, and the other values are words.
  | int value =>
    refine Printable.breaks ?_
    simpa [display] using printable_integerDigits value.toInt
  | float value =>
    refine Printable.breaks ?_
    simpa [display] using NumberLayout.Plain.plain.text value
  | bool value => cases value <;> decide
  | null => decide

/-- Displayed attributes have the breaks of their keys and of the texts that they hold. -/
theorem Attributes.breaks_display (attributes : Attributes) :
    breaks attributes.display =
      (attributes.entries.flatMap fun entry => entry.1 :: entry.2.text?.toList).flatMap breaks := by
  -- The sign between a key and its value is no break, nor is the blank between entries.
  have equals : breaks "=" = [] := by decide
  rw [display, breaks_intercalate (by decide), List.flatMap_map, List.flatMap_assoc]
  simp [equals]

namespace Console

/-- The column of a severity has no breaks, in colours or not. -/
@[simp] theorem breaks_severityColumn (console : Console) (ansi : Bool) (severity : Severity) :
    breaks (console.severityColumn ansi severity) = [] := by
  unfold severityColumn
  dsimp only
  -- Each name of a severity is padded with blanks, and colours are escape sequences without breaks.
  split <;> cases severity <;> decide

/-- Of what a line tells of an error, only the kind is not spelled out. -/
@[simp] theorem breaks_failureText (failure : Failure) :
    breaks (failureText failure) = failure.kind.toList.flatMap breaks := by
  -- The marks between the parts have no breaks.
  have bar : breaks " | " = [] := by decide
  have colon : breaks ": " = [] := by decide
  have cause : breaks " | caused by: " = [] := by decide
  have frame : breaks "\\n\\tat " = [] := by decide
  cases kind : failure.kind with
  | none => simp [failureText, kind, bar, cause, frame, List.flatMap_map]
  | some name => simp [failureText, kind, bar, colon, cause, frame, List.flatMap_map]

/-- The line for people has the breaks of the texts that it repeats as given, and no others. -/
theorem breaks_line (console : Console) (ansi : Bool) (event : Event) :
    breaks (console.line ansi event) = event.verbatim.flatMap breaks := by
  have bracket : breaks "[" = [] := by decide
  have brackets : breaks "] [" = [] := by decide
  have closing : breaks "] " = [] := by decide
  have dash : breaks " - " = [] := by decide
  have space : breaks " " = [] := by decide
  have empty : breaks "" = [] := by decide
  -- Attributes and error may be absent, and then they repeat nothing.
  have attributes :
      breaks (if event.attributes.isEmpty then "" else " " ++ event.attributes.display) =
        (event.attributes.entries.flatMap fun entry => entry.1 :: entry.2.text?.toList).flatMap
          breaks := by
    split
    · next none =>
      rw [List.isEmpty_iff.1 none]
      exact empty
    · rw [breaks_append, space, List.nil_append, Attributes.breaks_display]
  have failure : breaks ((event.failure.map failureText).getD "") =
      (event.failure.bind Failure.kind).toList.flatMap breaks := by
    cases event.failure with
    | none => exact empty
    | some failure => simp
  have date : breaks event.timestamp.text = [] := (printable_timestamp _).breaks
  simp [line, Event.verbatim, bracket, brackets, closing, dash, date, attributes, failure]

/-- The line for programs has no breaks. -/
theorem breaks_wire (event : Event) : breaks event.wire = [] :=
  event.printable_wire.breaks

/-- A line is one line exactly when it is for programs or when no text that it repeats as given
    breaks it: the label of the origin, a key or a text of an attribute, or the kind of an error. -/
theorem oneLine_render_iff (console : Console) (ansi : Bool) (event : Event) :
    OneLine (console.render ansi event) ↔
      console.format = .json ∨ ∀ text ∈ event.verbatim, OneLine text := by
  cases format : console.format with
  | json => simp [render, format, oneLine_iff, breaks_wire]
  | text =>
    -- The breaks of the line are those of the repeated texts, so there are none in none of them.
    simp [render, format, oneLine_iff, breaks_line, List.flatMap_eq_nil_iff]

/-- An event like the second one, but with an origin that ends the line of the first one. -/
def forging (console : Console) (ansi : Bool) (first second : Event) : Event :=
  { second with
    timestamp := first.timestamp
    severity := first.severity
    origin := { second.origin with
      serviceName := some <| first.origin.label ++ " - " ++ spelledOut first.message ++ "\n" ++
        "[" ++ second.timestamp.text ++ "] [" ++ console.severityColumn ansi second.severity ++
        "] " ++ second.origin.label } }

/-- A single event can pass for any two: one with nothing but a message, and any other one. -/
theorem line_forging (console : Console) (ansi : Bool) {first : Event} (second : Event)
    (bare : first.attributes = .empty) (fine : first.failure = none) :
    console.line ansi (forging console ansi first second) =
      console.line ansi first ++ "\n" ++ console.line ansi second := by
  -- The first line ends inside the origin, and the rest of the origin starts the second line.
  have label : (forging console ansi first second).origin.label =
      first.origin.label ++ " - " ++ spelledOut first.message ++ "\n" ++ "[" ++
        second.timestamp.text ++ "] [" ++ console.severityColumn ansi second.severity ++ "] " ++
        second.origin.label := rfl
  have ended : (if first.attributes.isEmpty then "" else " " ++ first.attributes.display) ++
      ((first.failure.map failureText).getD "") = "" := by
    rw [bare, fine]
    rfl
  simp only [line, label, String.append_assoc, ended, String.append_empty]
  rfl

/-- An event of which the service is named after the end of one line and the start of another. -/
def forged : Event :=
  { (default : Event) with
    message := "refused"
    origin := ⟨none, none, some "orders - accepted\n[1970-01-01T00:00:00.000Z] [ERROR] payments"⟩ }

/-- The line of the forged event breaks inside the name of its service. -/
theorem forged_not_oneLine : ¬ OneLine (standard.render false forged) := by
  rw [oneLine_iff]
  show breaks (standard.line false forged) ≠ []
  -- What is left to look at is the name of the service, which no date or colour hides.
  rw [breaks_line]
  decide

end Console

end LogCourier
