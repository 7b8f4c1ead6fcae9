import LogCourier.Proofs.Settings.Precedence

/-! Restating settings: what options resolve to resolves to itself, in every environment. -/

namespace LogCourier

/-- Settings as explicit ones, with an empty text for each that is absent. -/
def Settings.restated (settings : Settings) : List Setting :=
  [.endpoint (settings.endpoint.getD ""), .sourceId (settings.origin.sourceId.getD ""),
    .appId (settings.origin.appId.getD ""), .serviceName (settings.origin.serviceName.getD ""),
    .publishInterval settings.publishInterval, .minBatch settings.minBatch,
    .maxBatch settings.maxBatch, .sendTimeout settings.sendTimeout,
    .compression settings.compression, .echo settings.echo, .lineFormat settings.lineFormat,
    .overflow settings.overflow, .autoStart settings.autoStart,
    .shutdownTimeout settings.shutdownTimeout]

/-- The options in which all settings are explicit. -/
def Settings.stated (settings : Settings) : Options :=
  ⟨some (settings.endpoint.getD ""), some (settings.origin.sourceId.getD ""),
    some (settings.origin.appId.getD ""), some (settings.origin.serviceName.getD ""),
    some settings.publishInterval, some settings.minBatch, some settings.maxBatch,
    some settings.sendTimeout, some settings.compression, some settings.echo,
    some settings.lineFormat, some settings.overflow, some settings.autoStart,
    some settings.shutdownTimeout⟩

/-- A name that is there is not blank. -/
def NoBlank (kept : Option String) : Prop :=
  ∀ name, kept = some name → ¬Blanks name.toList

/-- Settings within all the limits that resolving puts on them. -/
structure WithinLimits (settings : Settings) : Prop where
  endpoint : ∀ url, settings.endpoint = some url → url ≠ "" ∧ BlankFreeEnds url.toList
  sourceId : NoBlank settings.origin.sourceId
  appId : NoBlank settings.origin.appId
  serviceName : NoBlank settings.origin.serviceName
  shortest : Settings.shortestInterval.nanos ≤ settings.publishInterval.nanos
  longest : settings.publishInterval.nanos ≤ Settings.longestInterval.nanos
  maxBatch : 1 ≤ settings.maxBatch
  minBatch : settings.minBatch ≤ settings.maxBatch
  sendTimeout : settings.sendTimeout.nanos ≤ settings.publishInterval.nineTenths.nanos
  overflow : ∀ ceiling, settings.overflow.ceiling? = some ceiling → settings.maxBatch ≤ ceiling

/-- A name that is kept is not blank. -/
theorem noBlank_cleanName (given : Option String) : NoBlank (cleanName given) :=
  fun name kept => ((names_cleanName given name).1 kept).2

/-- A span between the bounds stays where it is. -/
theorem Span.clamp_eq_self {span low high : Span} (above : low.nanos ≤ span.nanos)
    (below : span.nanos ≤ high.nanos) : span.clamp low high = span := by
  rw [clamp, if_neg (Nat.not_lt.2 above), if_neg (Nat.not_lt.2 below)]

/-- A ceiling that leaves room for a full batch is not raised. -/
theorem Overflow.raisedTo_eq_self {policy : Overflow} {least : Nat}
    (roomy : ∀ ceiling, policy.ceiling? = some ceiling → least ≤ ceiling) :
    policy.raisedTo least = policy := by
  -- Raising to a maximum changes nothing that is the maximum already.
  cases policy with
  | unbounded => rfl
  | evictOldest ceiling => rw [raisedTo, Nat.max_eq_left (roomy ceiling rfl)]
  | refuseNewest ceiling => rw [raisedTo, Nat.max_eq_left (roomy ceiling rfl)]

/-- A raised ceiling leaves room for a full batch. -/
theorem Overflow.le_of_raisedTo {policy : Overflow} {least ceiling : Nat}
    (raised : (policy.raisedTo least).ceiling? = some ceiling) : least ≤ ceiling := by
  -- The new ceiling is a maximum of the old one and the batch.
  cases policy with
  | unbounded => cases raised
  | evictOldest before =>
    cases raised
    exact Nat.le_max_right before least
  | refuseNewest before =>
    cases raised
    exact Nat.le_max_right before least

/-- Options resolve to settings within all limits. -/
theorem settled_resolve (options : Options) (environment : Environment) :
    WithinLimits (options.resolve environment).1 := by
  have ordered : Settings.shortestInterval.nanos ≤ Settings.longestInterval.nanos := by decide
  constructor
  -- Each limit is one step of resolving: cleaning, clamping, or taking a maximum or a minimum.
  case endpoint =>
    intro url kept
    obtain ⟨some, raw, -, trims⟩ := (addresses_cleanEndpoint _ url).1 kept
    exact ⟨some, trims.bare⟩
  case sourceId => exact noBlank_cleanName _
  case appId => exact noBlank_cleanName _
  case serviceName => exact noBlank_cleanName _
  case shortest =>
    refine le_of_le_of_eq ?_ (nanos_clamp ordered).symm
    exact le_max_left _ _
  case longest =>
    refine (nanos_clamp ordered).trans_le ?_
    exact max_le ordered (min_le_right _ _)
  case maxBatch => exact Nat.le_max_right _ _
  case minBatch => exact Nat.min_le_right _ _
  case sendTimeout => exact Nat.min_le_right _ _
  case overflow => exact fun ceiling => Overflow.le_of_raisedTo

/-- An address within its limits is cleaned already, and so is the empty text for none. -/
theorem cleanEndpoint_getD {kept : Option String}
    (clean : ∀ url, kept = some url → url ≠ "" ∧ BlankFreeEnds url.toList) :
    cleanEndpoint (some (kept.getD "")) = kept := by
  cases kept with
  | none => decide
  | some url =>
    obtain ⟨some, bare⟩ := clean url rfl
    -- No blank is around it, so that it is its own core.
    have core : Trims url.toList url.toList :=
      ⟨⟨[], [], by simp [Blanks], by simp [Blanks], by simp⟩, bare⟩
    exact (addresses_cleanEndpoint _ url).2 ⟨some, url, rfl, core⟩

/-- A name within its limits is kept, and of the empty text for none nothing is. -/
theorem cleanName_getD {kept : Option String} (clean : NoBlank kept) :
    cleanName (some (kept.getD "")) = kept := by
  -- An absent name is stated as the empty text, which is cleaned away.
  cases kept with
  | none => decide
  | some name => exact (names_cleanName _ name).2 ⟨rfl, clean name rfl⟩

/-- Settings within all limits are what their statement resolves to, without a look around. -/
theorem WithinLimits.resolve_stated {settings : Settings} (settled : WithinLimits settings)
    (environment : Environment) : settings.stated.resolve environment = (settings, []) := by
  -- Each step of resolving leaves alone what it would have made itself.
  have interval := Span.clamp_eq_self settled.shortest settled.longest
  have largest : max settings.maxBatch 1 = settings.maxBatch := Nat.max_eq_left settled.maxBatch
  have least : min settings.minBatch settings.maxBatch = settings.minBatch :=
    Nat.min_eq_left settled.minBatch
  have timeout : settings.sendTimeout.min settings.publishInterval.nineTenths =
      settings.sendTimeout := congrArg Span.mk (Nat.min_eq_left settled.sendTimeout)
  have policy := Overflow.raisedTo_eq_self settled.overflow
  have chosen (explicit : String) (found : Option String) :
      (some explicit <|> found) = some explicit := rfl
  simp only [Settings.stated, Options.resolve, Environment.lookUp, chosen, Option.getD_some,
    cleanEndpoint_getD settled.endpoint, cleanName_getD settled.sourceId,
    cleanName_getD settled.appId, cleanName_getD settled.serviceName, interval, largest, least,
    timeout, policy, List.append_nil]

variable {α : Type} {kind : α → Setting} {field : Options → Option α}

/-- In every order of the restated settings, the one of a kind is recorded. -/
theorem Records.restated (records : Records kind field) {settings : Settings}
    {order : List Setting} (perm : order.Perm settings.restated) (value : α)
    (own : ∀ other, kind other ∈ settings.restated ↔ other = value) :
    field (Options.ofSettings order) = some value := by
  have last := records.last order
  generalize field (Options.ofSettings order) = choice at last ⊢
  -- The last one is in the restated settings, where there is no other of its kind.
  cases last with
  | @set earlier later found split others =>
    have member : kind found ∈ order := by simp [split]
    rw [(own found).1 (perm.mem_iff.1 member)]
  | unset absent => exact absurd (perm.mem_iff.2 ((own value).2 rfl)) (absent value)

/-- The restated settings make up the same options in every order. -/
theorem ofSettings_restated {settings : Settings} {order : List Setting}
    (perm : order.Perm settings.restated) : Options.ofSettings order = settings.stated := by
  obtain ⟨endpoint, sourceId, appId, serviceName, publishInterval, minBatch, maxBatch, sendTimeout,
    compression, echo, lineFormat, overflow, autoStart, shutdownTimeout⟩ := options_record
  replace endpoint := endpoint.restated perm (settings.endpoint.getD "") ?_
  replace sourceId := sourceId.restated perm (settings.origin.sourceId.getD "") ?_
  replace appId := appId.restated perm (settings.origin.appId.getD "") ?_
  replace serviceName := serviceName.restated perm (settings.origin.serviceName.getD "") ?_
  replace publishInterval := publishInterval.restated perm settings.publishInterval ?_
  replace minBatch := minBatch.restated perm settings.minBatch ?_
  replace maxBatch := maxBatch.restated perm settings.maxBatch ?_
  replace sendTimeout := sendTimeout.restated perm settings.sendTimeout ?_
  replace compression := compression.restated perm settings.compression ?_
  replace echo := echo.restated perm settings.echo ?_
  replace lineFormat := lineFormat.restated perm settings.lineFormat ?_
  replace overflow := overflow.restated perm settings.overflow ?_
  replace autoStart := autoStart.restated perm settings.autoStart ?_
  replace shutdownTimeout := shutdownTimeout.restated perm settings.shutdownTimeout ?_
  · rw [Settings.stated, ← endpoint, ← sourceId, ← appId, ← serviceName, ← publishInterval,
      ← minBatch, ← maxBatch, ← sendTimeout, ← compression, ← echo, ← lineFormat, ← overflow,
      ← autoStart, ← shutdownTimeout]
  -- Each kind is restated once.
  all_goals simp [Settings.restated]

/-- Settings that options resolve to, set explicitly in any order, resolve to the same settings in
    every environment, without a notice. -/
theorem resolve_restated (options : Options) (environment elsewhere : Environment)
    {order : List Setting}
    (perm : order.Perm (options.resolve environment).1.restated) :
    (Options.ofSettings order).resolve elsewhere = ((options.resolve environment).1, []) := by
  -- In any order the restated settings record the same options.
  rw [ofSettings_restated perm]
  exact (settled_resolve options environment).resolve_stated elsewhere

/-- Options of which every limit changes something. -/
def Options.extreme : Options :=
  .ofSettings [.endpoint " http://collector\t", .sourceId "\u00a0", .publishInterval ⟨1⟩,
    .minBatch 7, .maxBatch 0, .overflow (.evictOldest 0)]

/-- Extreme options resolve to settings that stand, restated in reverse, among variables that no
    reader can read. -/
theorem resolve_restated_extreme :
    (Options.ofSettings (Options.extreme.resolve .empty).1.restated.reverse).resolve
        (fun _ => some "?") = ((Options.extreme.resolve .empty).1, []) ∧
      (Options.extreme.resolve .empty).1.endpoint = some "http://collector" ∧
      (Options.extreme.resolve .empty).1.origin.sourceId = none ∧
      (Options.extreme.resolve .empty).1.publishInterval = ⟨10000000⟩ ∧
      (Options.extreme.resolve .empty).1.minBatch = 1 ∧
      (Options.extreme.resolve .empty).1.overflow = .evictOldest 1 :=
  ⟨resolve_restated Options.extreme .empty _ (List.reverse_perm _), by decide, by decide,
    by decide, by decide, by decide⟩

end LogCourier
