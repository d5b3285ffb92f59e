import GraphSweep.JobConfig
import GraphSweep.VertexId

/-!
# Job errors

Why a job has no result. Errors keep the cause they stem from; the wording is in
one function.
-/

namespace GraphSweep

/-- A part of a job that has to stop before the job ends. -/
inductive Component
  | workers
  | readers
  deriving DecidableEq

/-- Why a job could not be started as described. -/
inductive JobFault
  | noRuntime
  | noInitializer
  | other (detail : String)
  deriving DecidableEq

/-- Why a job has no result. -/
inductive JobError
  | stalled (stream : Nat) (waited : Duration)
  | stopTimeout (component : Component) (waited : Duration)
  | probeDecode (vertex : VertexId) (source : StorageError)
  | readFailed (stream : Nat) (source : StorageError)
  | storage (source : StorageError)
  | config (fault : ConfigFault)
  | refused (fault : JobFault)
  /-- The task of the job ended without an answer. -/
  | taskLost
  /-- The queues asked for are longer than queues can be. -/
  | queueTooLong
  /-- More workers are asked for than can be listed. -/
  | tooManyWorkers
  deriving DecidableEq

namespace Component

/-- The component as messages name it. -/
def name : Component -> String
  | workers => "worker pool"
  | readers => "stream pullers"

end Component

namespace JobFault

/-- What is said about a job that could not be started. -/
def message : JobFault -> String
  | noRuntime => "jobs must be started from within a tokio runtime"
  | noInitializer => "no state initializer configured"
  | other detail => detail

end JobFault

namespace JobError

/-- The longest queue that a job can have: its free places are counted in 61 bits. -/
def longestQueue : Nat := UInt64.size / 8 - 1

/-- The most workers that a list of 8 bytes for each can hold. Beyond it the capacity of the
list overflows: it takes more bytes than half of what an address can tell apart. How much
memory there is does not enter into it, although a real machine runs out of it earlier. -/
def mostWorkers : Nat := UInt64.size / 16 - 1

/-- What is said about a job without a result. -/
def message : JobError -> String
  | stalled stream waited =>
      "Timed out after " ++ waited.text ++ " waiting for data on stream "
        ++ toString stream ++ " - storage error likely"
  | stopTimeout component waited =>
      "Timed out after " ++ waited.text ++ " waiting for " ++ component.name
        ++ " to stop"
  | probeDecode vertex source =>
      "Could not decode existence entry of vertex " ++ toString vertex.toInt
        ++ ": " ++ source.message
  | readFailed stream source =>
      "Stream " ++ toString stream ++ " failed while reading from storage: "
        ++ source.message
  | storage source => "Storage error: " ++ source.message
  | config fault =>
      "Configuration error: Invalid configuration: " ++ fault.message
  | refused fault => "Invalid job: " ++ fault.message
  | taskLost => "Pipeline task failed"
  | queueTooLong =>
      "a semaphore may not have more than MAX_PERMITS permits ("
        ++ toString longestQueue ++ ")"
  | tooManyWorkers => "capacity overflow"

/-- What is said about the cause of the error, if it stems from another. -/
def sourceMessage? : JobError -> Option String
  | probeDecode _ source => some source.message
  | readFailed _ source => some source.message
  | storage source => some source.message
  | config fault => some ("Invalid configuration: " ++ fault.message)
  | _ => none

/-- Whether whoever starts the job crashes, instead of getting the error. -/
def isCrash : JobError -> Bool
  | queueTooLong => true
  | tooManyWorkers => true
  | _ => false

/-- Whether a bounded wait has run out. -/
def isTimeout : JobError -> Bool
  | stalled _ _ => true
  | stopTimeout _ _ => true
  | _ => false

end JobError
end GraphSweep
