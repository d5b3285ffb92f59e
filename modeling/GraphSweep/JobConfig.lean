import GraphSweep.Duration

/-!
# Job configuration

How many workers a job has, how much its queues hold, how long it waits for the
store, and what it makes of a stream that fails. A configuration is refused for
the first of its faults, in a fixed order.
-/

namespace GraphSweep

/-- What a job makes of a stream whose reading fails. -/
inductive FailurePolicy
  | fail
  | truncate
  deriving DecidableEq

/-- The settings of a job. -/
structure JobConfig where
  workers : UInt64
  queueLength : UInt64
  pollMillis : UInt64
  timeoutMillis : UInt64
  policy : FailurePolicy
  deriving DecidableEq

/-- Why settings cannot be used. -/
inductive ConfigFault
  | noWorkers
  | noQueue
  | noTimeout
  | pollExceedsTimeout (poll timeout : UInt64)
  | other (detail : String)
  deriving DecidableEq

/-- Why no settings could be had. -/
inductive ConfigError
  | read
  | parse
  | invalid (fault : ConfigFault)
  deriving DecidableEq

namespace ConfigFault

/-- What is said about unusable settings. -/
def message : ConfigFault -> String
  | noWorkers => "parallelism must be at least 1"
  | noQueue => "queue_capacity must be at least 1"
  | noTimeout => "timeout_ms must be positive"
  | pollExceedsTimeout poll timeout =>
      "poll_interval_ms (" ++ toString poll.toNat ++ ") exceeds timeout_ms ("
        ++ toString timeout.toNat ++ ")"
  | other detail => detail

end ConfigFault

namespace FailurePolicy

/-- The policy as documents name it. -/
def name : FailurePolicy -> String
  | fail => "fail"
  | truncate => "truncate"

/-- The policy that a document names. -/
def ofName? (name : String) : Option FailurePolicy :=
  if name = "fail" then some fail
  else if name = "truncate" then some truncate
  else none

@[simp] theorem ofName?_name (policy : FailurePolicy) :
    ofName? policy.name = some policy := by
  cases policy <;> decide

end FailurePolicy

namespace JobConfig

/-- The settings where nothing is set, given the number of processors. -/
def standard (processors : UInt64) : JobConfig where
  workers := processors
  queueLength := 1000
  pollMillis := 10
  timeoutMillis := 60000
  policy := .fail

/-- The first fault of the settings, if they have one. -/
def fault? (config : JobConfig) : Option ConfigFault :=
  if config.workers = 0 then some .noWorkers
  else if config.queueLength = 0 then some .noQueue
  else if config.timeoutMillis = 0 then some .noTimeout
  else if config.timeoutMillis < config.pollMillis then
    some (.pollExceedsTimeout config.pollMillis config.timeoutMillis)
  else none

/-- Refuse settings that have a fault. -/
def validate (config : JobConfig) : Except ConfigError JobConfig :=
  match config.fault? with
  | some fault => .error (.invalid fault)
  | none => .ok config

/-- Set the number of workers. -/
def withWorkers (config : JobConfig) (workers : UInt64) : JobConfig :=
  { config with workers := workers }

/-- Set how much a queue holds. -/
def withQueueLength (config : JobConfig) (capacity : UInt64) : JobConfig :=
  { config with queueLength := capacity }

/-- Set the polling interval, in whole milliseconds. -/
def withPoll (config : JobConfig) (interval : Duration) : JobConfig :=
  { config with pollMillis := interval.millis }

/-- Set the timeout, in whole milliseconds. -/
def withTimeout (config : JobConfig) (timeout : Duration) : JobConfig :=
  { config with timeoutMillis := timeout.millis }

/-- Set what is made of a failing stream. -/
def withPolicy (config : JobConfig) (policy : FailurePolicy) : JobConfig :=
  { config with policy := policy }

/-- The polling interval. -/
def poll (config : JobConfig) : Duration :=
  Duration.ofMillis config.pollMillis

/-- The timeout. -/
def timeout (config : JobConfig) : Duration :=
  Duration.ofMillis config.timeoutMillis

end JobConfig
end GraphSweep
