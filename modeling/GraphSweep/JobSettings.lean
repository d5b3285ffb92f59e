import GraphSweep.Document
import GraphSweep.JobConfig
import GraphSweep.Toml.Document

/-!
# Job settings in documents

A settings document sets some of the fields of a configuration; the others have
their usual values, and names that it does not know mean nothing. Only the number
of workers has no fixed usual value: it is the number of processors.
-/

namespace GraphSweep

/-- What a settings document sets. -/
structure JobSettings where
  workers : Option UInt64
  queueLength : Option UInt64
  pollMillis : Option UInt64
  timeoutMillis : Option UInt64
  policy : Option FailurePolicy
  deriving DecidableEq

namespace TomlItem

/-- A whole number that is not negative. -/
def asWord64? (item : TomlItem) : Option UInt64 := do
  let value <- item.asInteger?
  if 0 ≤ value then return UInt64.ofNat value.toNat else none

end TomlItem

namespace JobSettings

/-- The field under a name, if there is one. It is refused if it cannot be
read. -/
def field? {α : Type}
    (read : TomlItem -> Option α)
    (fields : TomlFields)
    (name : String) : Option (Option α) :=
  match fields.get? name with
  | none => some none
  | some item => (read item).map some

/-- The settings that the fields of a document make. -/
def ofFields? (fields : TomlFields) : Option JobSettings := do
  let number := field? TomlItem.asWord64? fields
  let readPolicy := fun item : TomlItem =>
    item.asName? >>= FailurePolicy.ofName?
  let workers <- number "parallelism"
  let queueLength <- number "queue_capacity"
  let pollMillis <- number "poll_interval_ms"
  let timeoutMillis <- number "timeout_ms"
  let policy <- field? readPolicy fields "stream_failure"
  return ⟨workers, queueLength, pollMillis, timeoutMillis, policy⟩

/-- The configuration that settings make, given the number of processors. -/
def config (settings : JobSettings) (processors : UInt64) : JobConfig :=
  let usual := JobConfig.standard processors
  { workers := settings.workers.getD usual.workers
    queueLength := settings.queueLength.getD usual.queueLength
    pollMillis := settings.pollMillis.getD usual.pollMillis
    timeoutMillis := settings.timeoutMillis.getD usual.timeoutMillis
    policy := settings.policy.getD usual.policy }

/-- The settings that a text spells. -/
def ofText (text : String) : Except ConfigError JobSettings :=
  match TomlFields.ofText? text >>= ofFields? with
  | some settings => .ok settings
  | none => .error .parse

/-- The settings that the bytes of a file spell. -/
def ofFile (content : Bytes) : Except ConfigError JobSettings :=
  match content.toText? with
  | some text => ofText text
  | none => .error .read

end JobSettings

namespace JobConfig

/-- The valid configuration that a text spells, given the number of
processors. -/
def ofText (processors : UInt64) (text : String) :
    Except ConfigError JobConfig := do
  let settings <- JobSettings.ofText text
  (settings.config processors).validate

/-- The valid configuration that the bytes of a file spell, given the number of
processors. -/
def ofFile (processors : UInt64) (content : Bytes) :
    Except ConfigError JobConfig := do
  let settings <- JobSettings.ofFile content
  (settings.config processors).validate

/-- The document of a configuration. -/
def toJson (config : JobConfig) : JsonValue :=
  .record [("parallelism", .natural config.workers.toNat),
    ("queue_capacity", .natural config.queueLength.toNat),
    ("poll_interval_ms", .natural config.pollMillis.toNat),
    ("timeout_ms", .natural config.timeoutMillis.toNat),
    ("stream_failure", config.policy.toJson)]

end JobConfig
end GraphSweep
