import LogCourier.Proofs.Settings.Notation
import LogCourier.Proofs.Time.Tenths
import LogCourier.Settings.Resolve

/-! Precedence of settings: explicit ones come first, then variables, then defaults. -/

namespace LogCourier

/-- The value of the last setting of a kind, if there is one. -/
inductive Last (explicit : List Setting) (kind : α → Setting) : Option α → Prop where
  | set {earlier later : List Setting} {value : α}
      (split : explicit = earlier ++ kind value :: later) (others : ∀ other, kind other ∉ later) :
      Last explicit kind (some value)
  | unset (absent : ∀ value, kind value ∉ explicit) : Last explicit kind none

/-- A kind of settings and the field of the options in which they are recorded. -/
structure Records (kind : α → Setting) (field : Options → Option α) : Prop where
  initial : field .none = none
  same : ∀ (options : Options) value, field (options.set (kind value)) = some value
  other : ∀ (options : Options) setting, (∀ value, setting ≠ kind value) →
    field (options.set setting) = field options

variable {α : Type} {explicit : List Setting} {kind : α → Setting} {field : Options → Option α}

/-- A setting of another kind changes nothing about the last one of a kind. -/
theorem Last.concat {choice : Option α} (last : Last explicit kind choice) {setting : Setting}
    (other : ∀ value, setting ≠ kind value) : Last (explicit ++ [setting]) kind choice := by
  -- It joins what comes after the last one.
  cases last with
  | @set earlier later value split others =>
    have moved : explicit ++ [setting] = earlier ++ kind value :: (later ++ [setting]) := by
      simp [split]
    exact .set moved fun value => by simp [others value, (other value).symm]
  | unset absent => exact .unset fun value => by simp [absent value, (other value).symm]

/-- The options record the last setting of each kind. -/
theorem Records.last (records : Records kind field) (explicit : List Setting) :
    Last explicit kind (field (Options.ofSettings explicit)) := by
  -- The induction adds one setting at the end, which is the last of its own kind only.
  induction explicit using List.reverseRecOn with
  | nil =>
    rw [Options.ofSettings, List.foldl_nil, records.initial]
    exact .unset fun value => List.not_mem_nil
  | append_singleton earlier setting ih =>
    have step : Options.ofSettings (earlier ++ [setting]) =
        (Options.ofSettings earlier).set setting := List.foldl_append ..
    rw [step]
    by_cases own : ∃ value, setting = kind value
    · obtain ⟨value, rfl⟩ := own
      rw [records.same]
      exact .set rfl fun other => List.not_mem_nil
    · have apart : ∀ value, setting ≠ kind value := fun value same => own ⟨value, same⟩
      rw [records.other _ _ apart]
      exact ih.concat apart

/-- Settings of other kinds leave a field as it is, however many they are. -/
theorem Records.foldl_set (records : Records kind field) {later : List Setting}
    (others : ∀ value, kind value ∉ later) (options : Options) :
    field (later.foldl Options.set options) = field options := by
  -- The induction takes them in the order in which they are set.
  induction later generalizing options with
  | nil => rfl
  | cons setting rest ih =>
    have apart : ∀ value, setting ≠ kind value := fun value same =>
      others value (same ▸ List.mem_cons_self)
    rw [List.foldl_cons, ih (fun value member => others value (List.mem_cons_of_mem _ member)),
      records.other _ _ apart]

/-- There is one last setting of a kind, and it is the one that the options record. -/
theorem Records.eq_of_last (records : Records kind field) {choice : Option α}
    (last : Last explicit kind choice) : field (Options.ofSettings explicit) = choice := by
  -- Only those after it are set later, and none of them is of its kind.
  cases last with
  | set split others =>
    rw [split, Options.ofSettings, List.foldl_append, List.foldl_cons, records.foldl_set others,
      records.same]
  | unset absent => rw [Options.ofSettings, records.foldl_set absent, records.initial]

/-- Every kind of settings is recorded in its own field. -/
theorem options_record :
    Records .endpoint Options.endpoint ∧ Records .sourceId Options.sourceId ∧
    Records .appId Options.appId ∧ Records .serviceName Options.serviceName ∧
    Records .publishInterval Options.publishInterval ∧ Records .minBatch Options.minBatch ∧
    Records .maxBatch Options.maxBatch ∧ Records .sendTimeout Options.sendTimeout ∧
    Records .compression Options.compression ∧ Records .echo Options.echo ∧
    Records .lineFormat Options.lineFormat ∧ Records .overflow Options.overflow ∧
    Records .autoStart Options.autoStart ∧ Records .shutdownTimeout Options.shutdownTimeout := by
  refine ⟨?_, ?_, ?_, ?_, ?_, ?_, ?_, ?_, ?_, ?_, ?_, ?_, ?_, ?_⟩
  all_goals
    refine ⟨rfl, fun options value => rfl, fun options setting other => ?_⟩
    -- A setting of its own kind is excluded, and each of the others is recorded elsewhere.
    cases setting <;> first | rfl | exact absurd rfl (other _)

/-- The value that a setting is given: the last explicit one, else the one a variable writes. -/
inductive Given (explicit : List Setting) (kind : α → Setting) (found : Option String)
    (Writes : String → α → Prop) : Option α → Prop where
  | explicit {value : α} (last : Last explicit kind (some value)) :
      Given explicit kind found Writes (some value)
  | found {raw : String} {value : α} (unset : Last explicit kind none) (present : found = some raw)
      (writes : Writes raw value) : Given explicit kind found Writes (some value)
  | neither (unset : Last explicit kind none)
      (useless : ∀ raw, found = some raw → ∀ value, ¬ Writes raw value) :
      Given explicit kind found Writes none

/-- A variable that is looked up in vain: nothing is explicit, and its text writes no value. -/
def Unreadable (explicit : List Setting) (kind : α → Setting) (found : Option String)
    (Writes : String → α → Prop) : Prop :=
  Last explicit kind none ∧ ∃ raw, found = some raw ∧ ∀ value, ¬ Writes raw value

/-- The notice that the text of a variable is ignored. -/
def complaint (key : Variable) (raw problem : String) : Notice :=
  .ignoredVariable key.name ("ignoring " ++ quoted raw ++ ": " ++ problem)

/-- What looking up a variable must come to: the given value, and a notice if it is unreadable. -/
structure Yields (explicit : List Setting) (kind : α → Setting) (environment : Environment)
    (key : Variable) (Writes : String → α → Prop) (Explains : String → String → Prop)
    (lookup : Lookup α) : Prop where
  value : Given explicit kind (environment.text key) Writes lookup.value
  notices : (¬ Unreadable explicit kind (environment.text key) Writes ∧ lookup.notices = []) ∨
    (Unreadable explicit kind (environment.text key) Writes ∧ ∃ raw problem,
      environment.text key = some raw ∧ Explains raw problem ∧
        lookup.notices = [complaint key raw problem])

/-- Looking up a variable with a faithful reader, behind the explicit settings of its kind. -/
theorem Records.yields (records : Records kind field) {parse : String → Except String α}
    {Writes : String → α → Prop} {Explains : String → String → Prop}
    (faithful : ReadsExactly parse Writes Explains) (explicit : List Setting)
    (environment : Environment) (key : Variable) :
    Yields explicit kind environment key Writes Explains
      (environment.lookUp (field (Options.ofSettings explicit)) key parse) := by
  have last := records.last explicit
  -- The cases are those of the look-up: explicit, absent, read, or not to be read.
  unfold Environment.lookUp
  split
  · next value chosen =>
    rw [chosen] at last
    refine ⟨.explicit last, .inl ⟨fun unreadable => ?_, rfl⟩⟩
    -- What is explicit cannot be absent at once.
    cases chosen.symm.trans (records.eq_of_last unreadable.1)
  · next chosen =>
    rw [chosen] at last
    split
    · next absent =>
      exact ⟨.neither last (by simp [absent]), .inl ⟨by simp [Unreadable, absent], rfl⟩⟩
    · next raw present =>
      split
      · next value read =>
        have writes := (faithful.reads raw value).1 read
        refine ⟨.found last present writes, .inl ⟨?_, rfl⟩⟩
        rintro ⟨-, found, same, useless⟩
        cases present.symm.trans same
        exact useless value writes
      · next problem fails =>
        have useless (value : α) : ¬ Writes raw value := by
          rw [← faithful.reads, fails]
          simp
        refine ⟨.neither last fun found same => ?_, .inr ⟨⟨last, raw, present, useless⟩, raw,
          problem, present, faithful.explains raw problem fails, rfl⟩⟩
        cases present.symm.trans same
        exact useless

/-- The value of a text setting, of which any variable is good enough. -/
theorem Records.orElse {field : Options → Option String} {kind : String → Setting}
    (records : Records kind field) (explicit : List Setting) (found : Option String) :
    Given explicit kind found Eq (field (Options.ofSettings explicit) <|> found) := by
  -- The text that was set explicitly decides, and only without one the variable is looked up.
  have last := records.last explicit
  cases chosen : field (Options.ofSettings explicit) with
  | some value => exact .explicit (chosen ▸ last)
  | none =>
    rw [chosen] at last
    cases found with
    | none => exact .neither last (by simp)
    | some raw => exact .found last rfl rfl

/-- A name is kept as it is, unless it is blank. -/
def Names (given kept : Option String) : Prop :=
  ∀ name, kept = some name ↔ given = some name ∧ ¬ Blanks name.toList

/-- An address is kept without the blanks around it, unless it is blank. -/
def Addresses (given kept : Option String) : Prop :=
  ∀ url, kept = some url ↔ url ≠ "" ∧ ∃ raw, given = some raw ∧ Trims raw.toList url.toList

/-- A text is blank exactly when trimming leaves nothing of it. -/
theorem blanks_iff {text : List Char} : Blanks text ↔ trimBlanks text = [] := by
  constructor
  · intro blank
    exact Trims.eq ⟨⟨text, [], blank, by simp [Blanks], by simp⟩, ⟨by simp, by simp⟩⟩
  · intro nothing
    -- Then the text is nothing but what goes at the two ends.
    obtain ⟨⟨front, back, blank, empty, whole⟩, -⟩ := trims_iff.2 nothing
    rw [whole, List.append_nil]
    exact List.forall_mem_append.2 ⟨blank, empty⟩

/-- Cleaning keeps a name unless it is blank. -/
theorem names_cleanName (given : Option String) : Names given (cleanName given) := by
  -- Blank is what trimming leaves nothing of.
  intro name
  rw [cleanName, Option.filter_eq_some_iff, blanks_iff, isBlankText]
  simp

/-- Cleaning keeps an address unless it is blank. -/
theorem addresses_cleanEndpoint (given : Option String) :
    Addresses given (cleanEndpoint given) := by
  intro url
  -- An address is what is left between blanks, and it is unique.
  have core (raw : String) : Trims raw.toList url.toList ↔ trimmedText raw = url := by
    rw [trims_iff, trimmedText, ← String.toList_inj, String.toList_ofList]
  rw [cleanEndpoint, Option.filter_eq_some_iff, Option.map_eq_some_iff]
  simp only [core]
  rw [and_comm]
  simp

/-- A span is clamped by moving it to the nearer bound. -/
theorem nanos_clamp {span low high : Span} (ordered : low.nanos ≤ high.nanos) :
    (span.clamp low high).nanos = max low.nanos (min span.nanos high.nanos) := by
  -- Below, above or between the bounds, and the bounds are in order.
  unfold Span.clamp
  split
  · omega
  · split <;> omega

/-- A policy with its ceiling raised to leave room for a full batch. -/
inductive Raised (least : Nat) : Overflow → Overflow → Prop where
  | unbounded : Raised least .unbounded .unbounded
  | evictOldest (ceiling : Nat) :
      Raised least (.evictOldest ceiling) (.evictOldest (max ceiling least))
  | refuseNewest (ceiling : Nat) :
      Raised least (.refuseNewest ceiling) (.refuseNewest (max ceiling least))

/-- Raising a ceiling leaves room for a full batch. -/
theorem raised_raisedTo (least : Nat) (policy : Overflow) :
    Raised least policy (policy.raisedTo least) := by
  -- Both ceilings are raised by the same maximum.
  cases policy with
  | unbounded => exact .unbounded
  | evictOldest ceiling => exact .evictOldest ceiling
  | refuseNewest ceiling => exact .refuseNewest ceiling

/-- Where each value of the settings comes from, and the limits within which it is kept. -/
structure Resolved (explicit : List Setting) (environment : Environment) (settings : Settings) :
    Prop where
  endpoint : ∃ given, Given explicit .endpoint (environment.text .endpoint) Eq given ∧
    Addresses given settings.endpoint
  sourceId : ∃ given, Given explicit .sourceId (environment.text .sourceId) Eq given ∧
    Names given settings.origin.sourceId
  appId : ∃ given, Given explicit .appId (environment.text .appId) Eq given ∧
    Names given settings.origin.appId
  serviceName : ∃ given, Given explicit .serviceName (environment.text .serviceName) Eq given ∧
    Names given settings.origin.serviceName
  publishInterval : ∃ given, Given explicit .publishInterval
      (environment.text .publishInterval) WritesMillis given ∧
    settings.publishInterval.nanos = max (Span.ofMillis 10).nanos
      (min (given.getD (Span.ofSeconds 30)).nanos (Span.ofSeconds (24 * 60 * 60)).nanos)
  maxBatch : ∃ given, Given explicit .maxBatch (environment.text .maxBatch) WritesNumber given ∧
    settings.maxBatch = max 1 (given.getD 10000)
  minBatch : ∃ given, Given explicit .minBatch (environment.text .minBatch) WritesNumber given ∧
    settings.minBatch = min (given.getD 100) settings.maxBatch
  sendTimeout : ∃ given limit, Given explicit .sendTimeout
      (environment.text .sendTimeout) WritesMillis given ∧
    -- The limit is nine tenths of the interval to the nearest nanosecond.
    (10 * limit ≤ 9 * settings.publishInterval.nanos + 5 ∧
      9 * settings.publishInterval.nanos ≤ 10 * limit + 5) ∧
    settings.sendTimeout.nanos = min (given.getD (Span.ofSeconds 30)).nanos limit
  compression : ∃ given, Given explicit .compression (environment.text .compression)
      WritesCompression given ∧ settings.compression = given.getD .gzip
  echo : ∃ given, Given explicit .echo (environment.text .echo) WritesSwitch given ∧
    settings.echo = given.getD settings.endpoint.isNone
  lineFormat : ∃ given, Given explicit .lineFormat (environment.text .lineFormat)
      WritesFormat given ∧ settings.lineFormat = given.getD .text
  overflow : ∃ given, Last explicit .overflow given ∧
    Raised settings.maxBatch (given.getD .unbounded) settings.overflow
  autoStart : ∃ given, Last explicit .autoStart given ∧ settings.autoStart = given.getD true
  shutdownTimeout : ∃ given, Last explicit .shutdownTimeout given ∧
    settings.shutdownTimeout = given.getD (Span.ofSeconds 5)

/-- Options resolve to settings with every value from where it should come. -/
theorem resolved_resolve (explicit : List Setting) (environment : Environment) :
    Resolved explicit environment ((Options.ofSettings explicit).resolve environment).1 := by
  obtain ⟨endpoint, sourceId, appId, serviceName, publishInterval, minBatch, maxBatch, sendTimeout,
    compression, echo, lineFormat, overflow, autoStart, shutdownTimeout⟩ := options_record
  have ordered : Settings.shortestInterval.nanos ≤ Settings.longestInterval.nanos := by decide
  constructor
  case endpoint => exact ⟨_, endpoint.orElse explicit _, addresses_cleanEndpoint _⟩
  case sourceId => exact ⟨_, sourceId.orElse explicit _, names_cleanName _⟩
  case appId => exact ⟨_, appId.orElse explicit _, names_cleanName _⟩
  case serviceName => exact ⟨_, serviceName.orElse explicit _, names_cleanName _⟩
  case publishInterval =>
    exact ⟨_, (publishInterval.yields faithful_millis explicit environment _).value,
      nanos_clamp ordered⟩
  case maxBatch =>
    exact ⟨_, (maxBatch.yields faithful_number explicit environment _).value, Nat.max_comm _ _⟩
  case minBatch =>
    exact ⟨_, (minBatch.yields faithful_number explicit environment _).value, rfl⟩
  case sendTimeout =>
    refine ⟨_, _, (sendTimeout.yields faithful_millis explicit environment _).value, ?_, rfl⟩
    -- A clamped interval is not longer than a day.
    refine Span.nineTenths_near ?_
    refine (nanos_clamp ordered).trans_le ?_
    exact max_le (by decide) (min_le_right _ _)
  case compression =>
    exact ⟨_, (compression.yields faithful_compression explicit environment _).value, rfl⟩
  case echo =>
    exact ⟨_, (echo.yields faithful_switch explicit environment _).value, rfl⟩
  case lineFormat =>
    exact ⟨_, (lineFormat.yields faithful_format explicit environment _).value, rfl⟩
  case overflow =>
    exact ⟨_, overflow.last explicit, raised_raisedTo _ _⟩
  case autoStart => exact ⟨_, autoStart.last explicit, rfl⟩
  case shutdownTimeout => exact ⟨_, shutdownTimeout.last explicit, rfl⟩

/-- A given value is the explicit one wherever there is one. -/
theorem Given.eq_of_last (records : Records kind field) {found : Option String}
    {Writes : String → α → Prop} {given : Option α} {value : α}
    (given_from : Given explicit kind found Writes given)
    (last : Last explicit kind (some value)) : given = some value := by
  have recorded := records.eq_of_last last
  cases given_from with
  | explicit other => exact (records.eq_of_last other).symm.trans recorded
  -- What is explicit cannot be absent at once.
  | found unset _ _ => cases (records.eq_of_last unset).symm.trans recorded
  | neither unset _ => cases (records.eq_of_last unset).symm.trans recorded

/-- Nothing is kept of a blank name. -/
theorem Names.hidden {blank : String} {kept : Option String} (names : Names (some blank) kept)
    (empty : Blanks blank.toList) : kept = none := by
  -- What is kept is the blank text itself, which is ruled out.
  cases same : kept with
  | none => rfl
  | some name =>
    obtain ⟨given, some⟩ := (names name).1 same
    cases given
    exact absurd empty some

/-- Nothing is kept of a blank address. -/
theorem Addresses.hidden {blank : String} {kept : Option String}
    (addresses : Addresses (some blank) kept) (empty : Blanks blank.toList) : kept = none := by
  cases same : kept with
  | none => rfl
  -- The only text between the blanks of a blank text is empty.
  | some url =>
    obtain ⟨some, raw, given, trims⟩ := (addresses url).1 same
    cases given
    rw [trims_iff, blanks_iff.1 empty] at trims
    exact absurd (String.toList_inj.1 trims.symm) some

/-- A blank explicit name hides its variable, and nothing is left of either. -/
theorem Records.hidden {field : Options → Option String} {kind : String → Setting}
    (records : Records kind field) {found kept : Option String} {blank : String}
    (source : ∃ given, Given explicit kind found Eq given ∧ Names given kept)
    (empty : Blanks blank.toList) (last : Last explicit kind (some blank)) : kept = none := by
  -- What was set last is what was given, and it is blank.
  obtain ⟨given, chosen, names⟩ := source
  rw [chosen.eq_of_last records last] at names
  exact names.hidden empty

/-- Blank explicit settings hide their variables, and nothing is left of either. -/
theorem Resolved.hidden {environment : Environment} {settings : Settings}
    (resolved : Resolved explicit environment settings) {blank : String}
    (empty : Blanks blank.toList) :
    (Last explicit .endpoint (some blank) → settings.endpoint = none) ∧
    (Last explicit .sourceId (some blank) → settings.origin.sourceId = none) ∧
    (Last explicit .appId (some blank) → settings.origin.appId = none) ∧
    (Last explicit .serviceName (some blank) → settings.origin.serviceName = none) := by
  -- The names go alike, and only the address is trimmed.
  obtain ⟨endpoint, sourceId, appId, serviceName, -⟩ := options_record
  refine ⟨fun last => ?_, sourceId.hidden resolved.sourceId empty,
    appId.hidden resolved.appId empty, serviceName.hidden resolved.serviceName empty⟩
  obtain ⟨given, chosen, addresses⟩ := resolved.endpoint
  rw [chosen.eq_of_last endpoint last] at addresses
  exact addresses.hidden empty

/-- A batch worth a timer's while is never more than a full one. -/
theorem Resolved.fitting {environment : Environment} {settings : Settings}
    (resolved : Resolved explicit environment settings) :
    settings.minBatch ≤ settings.maxBatch := by
  obtain ⟨given, -, least⟩ := resolved.minBatch
  rw [least]
  -- The smaller bound was taken.
  exact Nat.min_le_right _ _

end LogCourier
