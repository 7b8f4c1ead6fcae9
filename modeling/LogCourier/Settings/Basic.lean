import LogCourier.Event.Basic
import LogCourier.Settings.Choice
import LogCourier.Settings.Overflow
import LogCourier.Time.Span

/-! Settings of a courier, and the explicit options from which they are resolved. -/

namespace LogCourier

/-- Settings in force, with every value decided. -/
structure Settings where
  endpoint : Option String
  origin : Origin
  publishInterval : Span
  minBatch : Nat
  maxBatch : Nat
  sendTimeout : Span
  compression : Compression
  echo : Bool
  lineFormat : LineFormat
  overflow : Overflow
  autoStart : Bool
  shutdownTimeout : Span
  deriving DecidableEq

namespace Settings

/-- Whether events are shipped at all. -/
def isRemote (settings : Settings) : Bool :=
  settings.endpoint.isSome

end Settings

/-- What is set explicitly; everything else is looked up or left to its default. -/
structure Options where
  endpoint : Option String
  sourceId : Option String
  appId : Option String
  serviceName : Option String
  publishInterval : Option Span
  minBatch : Option Nat
  maxBatch : Option Nat
  sendTimeout : Option Span
  compression : Option Compression
  echo : Option Bool
  lineFormat : Option LineFormat
  overflow : Option Overflow
  autoStart : Option Bool
  shutdownTimeout : Option Span
  deriving DecidableEq

/-- One explicit setting. -/
inductive Setting where
  | endpoint (url : String)
  | sourceId (id : String)
  | appId (id : String)
  | serviceName (name : String)
  | publishInterval (span : Span)
  | minBatch (size : Nat)
  | maxBatch (size : Nat)
  | sendTimeout (span : Span)
  | compression (choice : Compression)
  | echo (wanted : Bool)
  | lineFormat (format : LineFormat)
  | overflow (policy : Overflow)
  | autoStart (wanted : Bool)
  | shutdownTimeout (span : Span)
  deriving DecidableEq

namespace Options

/-- Nothing set. -/
def none : Options :=
  ⟨.none, .none, .none, .none, .none, .none, .none, .none, .none, .none, .none, .none, .none, .none⟩

/-- The options after one more setting, which replaces an earlier one of its kind. -/
def set (options : Options) : Setting → Options
  | .endpoint url => { options with endpoint := url }
  | .sourceId id => { options with sourceId := id }
  | .appId id => { options with appId := id }
  | .serviceName name => { options with serviceName := name }
  | .publishInterval span => { options with publishInterval := span }
  | .minBatch size => { options with minBatch := size }
  | .maxBatch size => { options with maxBatch := size }
  | .sendTimeout span => { options with sendTimeout := span }
  | .compression choice => { options with compression := choice }
  | .echo wanted => { options with echo := wanted }
  | .lineFormat format => { options with lineFormat := format }
  | .overflow policy => { options with overflow := policy }
  | .autoStart wanted => { options with autoStart := wanted }
  | .shutdownTimeout span => { options with shutdownTimeout := span }

/-- The options after a run of settings. -/
def ofSettings (settings : List Setting) : Options :=
  settings.foldl set none

end Options

end LogCourier
