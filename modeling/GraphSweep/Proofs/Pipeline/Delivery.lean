import GraphSweep.Pipeline.Delivery
import GraphSweep.Proofs.Pipeline.Progress

/-!
# What is received from a reader

However a reader and the one who receives from it do their steps, what has been received
is always the beginning of the feed of the stream. A reader that is not told to
stop tells how it ended before it lets go of its queue, so whoever finds the queue closed
has received the whole feed, and is told whether the stream was exhausted or what a read
failed with.
-/

namespace GraphSweep

namespace ReaderStatus

/-- How a reader ends that is not told to stop, by what the first failing read of its
stream fails with. -/
def ofFault? : Option StorageError -> ReaderStatus
  | none => .exhausted
  | some error => .failed error

/-- Whether a status tells how a stream has ended. -/
def isFinal : ReaderStatus -> Bool
  | .exhausted | .failed _ => true
  | .running | .cancelled => false

@[simp] theorem fault?_ofFault? (fault : Option StorageError) :
    (ofFault? fault).fault? = fault := by
  cases fault <;> rfl

/-- A status that tells how a stream has ended is told by that end. -/
theorem eq_ofFault?
    {status : ReaderStatus}
    {fault : Option StorageError}
    (final : status.isFinal = true)
    (ends : status.ending = .ofFault? fault) :
    status = .ofFault? fault := by
  cases status with
  | running | cancelled => cases final
  | exhausted =>
      cases fault with
      | none => rfl
      | some error => cases ends
  | failed error =>
      cases fault with
      | none => cases ends
      | some other =>
          cases ends
          rfl

end ReaderStatus

namespace Reader

variable {capacity : Nat} {reader next : Reader}

/-- Whether a reader has told how it ended. -/
def hasReported (reader : Reader) : Bool :=
  match reader.phase with
  | .leaving | .gone => true
  | .looking | .fetching | .offering _ | .closing _ | .reporting _ => false

/-- Whether a reader that reads no more has got to the end of its stream. -/
def EndsWithStream (reader : Reader) : Prop :=
  match reader.phase with
  | .looking | .fetching | .offering _ => True
  | .closing status | .reporting status => status.isFinal = true
  | .leaving | .gone => reader.status.isFinal = true

/-- A reader brings nothing more than it was bound to bring. -/
theorem items_outstanding_advance
    (advances : reader.advance capacity = some next) :
    next.outstanding.items <+: reader.outstanding.items := by
  rcases outstanding_advance_or advances with same | ⟨-, queue, phase⟩
  · exact same ▸ List.prefix_rfl
  · rw [outstanding, outstanding, ahead, phase, queue]
    simp

/-- A reader that is not told to stop reads on to the end of its stream. -/
theorem EndsWithStream.advance
    (ends : reader.EndsWithStream)
    (heeded : reader.cancelled = false)
    (advances : reader.advance capacity = some next) :
    next.EndsWithStream := by
  cases advances_of_advance advances with
  | heeds phase told | forgets item phase told =>
      rw [heeded] at told
      cases told
  | ends | fails => exact rfl
  | looks | passes | finds | puts => exact trivial
  | closes status phase | reports status phase | leaves phase =>
      rw [EndsWithStream, phase] at ends
      exact ends

/-- A reader that has stopped at the end of its stream tells how it ended. -/
theorem EndsWithStream.isFinal_of_gone
    (ends : reader.EndsWithStream)
    (gone : reader.isGone) :
    reader.status.isFinal = true := by
  rwa [EndsWithStream, isGone_iff.1 gone] at ends

/-- Only a reader that has not told how it ended comes to tell it. -/
theorem status_advance (advances : reader.advance capacity = some next) :
    next.status = reader.status ∧
        (next.hasReported = false -> reader.hasReported = false) ∨
      reader.hasReported = false ∧ next.hasReported = true := by
  cases advances_of_advance advances with
  | reports status phase =>
      right
      simp [hasReported, phase]
  | leaves =>
      left
      simp [hasReported]
  | looks phase | heeds phase | ends phase | fails _ _ _ phase
  | passes _ _ phase | finds _ _ _ phase | puts _ phase | forgets _ phase
  | closes _ phase =>
      left
      simp [hasReported, phase]

end Reader

namespace Delivery

@[simp] theorem outstanding_heeding (delivery : Delivery) :
    delivery.heeding.outstanding = delivery.reader.outstanding := rfl

/-- What holds of every delivery of a feed. -/
structure Delivers (feed : Feed) (delivery : Delivery) : Prop where
  flagged : delivery.shut = true -> delivery.flagged = true
  /-- What has been received and what is still to come is the beginning of the feed. -/
  first : delivery.received ++ delivery.reader.outstanding.items <+: feed.items
  /-- It is all of the feed as long as the reader is not told to stop. -/
  whole : delivery.flagged = false ->
    Feed.mk (delivery.received ++ delivery.reader.outstanding.items)
      delivery.reader.outstanding.ending = feed
  ends : delivery.flagged = false -> delivery.reader.EndsWithStream
  silent : delivery.reader.hasReported = false ->
    delivery.reader.status = .running
  /-- The errors taken and the one to take are what the reader has failed with. -/
  errors : delivery.taken ++ delivery.error?.toList =
    delivery.reader.status.fault?.toList

variable
  {capacity : Nat}
  {feed : Feed}
  {delivery next : Delivery}

theorem delivers_start (stream : KeyStream) :
    Delivers (Feed.ofReads stream.reads) (start stream) where
  flagged := nofun
  first := List.prefix_rfl
  whole _ := rfl
  ends _ := trivial
  silent _ := rfl
  errors := rfl

namespace Delivers

theorem shut_of_unflagged
    (delivers : Delivers feed delivery)
    (calm : delivery.flagged = false) :
    delivery.shut = false := by
  cases shut : delivery.shut with
  | false => rfl
  | true =>
      rw [delivers.flagged shut] at calm
      cases calm

/-- A reader finds nothing that tells it to stop as long as the receiver has raised no
flag. -/
theorem isStopped_of_unflagged
    (delivers : Delivers feed delivery)
    (calm : delivery.flagged = false) :
    delivery.isStopped = false := by
  have unshut := delivers.shut_of_unflagged calm
  unfold isStopped
  split <;> assumption

/-- Nothing has been taken from a reader that has not told how it ended. -/
theorem taken_of_unreported
    (delivers : Delivers feed delivery)
    (unreported : delivery.reader.hasReported = false) :
    delivery.taken = [] := by
  have errors := delivers.errors
  rw [delivers.silent unreported] at errors
  exact (List.append_eq_nil_iff.1 errors).1

/-- A step of the reader keeps what holds of a delivery. -/
theorem read
    (delivers : Delivers feed delivery)
    (reads : delivery.read capacity = some next) :
    Delivers feed next := by
  obtain ⟨reader, advances, rfl⟩ := Option.map_eq_some_iff.1 reads
  refine ⟨delivers.flagged, ?first, ?whole, ?ends, ?silent, ?errors⟩
  case first =>
    have fewer := Reader.items_outstanding_advance advances
    rw [outstanding_heeding] at fewer
    exact ((List.prefix_append_right_inj _).2 fewer).trans delivers.first
  case whole =>
    intro calm
    have heeded : delivery.heeding.cancelled = false :=
      delivers.isStopped_of_unflagged calm
    have same := Reader.outstanding_advance heeded advances
    rw [outstanding_heeding] at same
    dsimp only
    rw [same]
    exact delivers.whole calm
  case ends =>
    intro calm
    have ends : delivery.heeding.EndsWithStream := delivers.ends calm
    exact ends.advance (delivers.isStopped_of_unflagged calm) advances
  case silent =>
    intro unreported
    rcases Reader.status_advance advances with ⟨same, kept⟩ | ⟨-, reported⟩
    · exact same.trans (delivers.silent (kept unreported))
    · rw [reported] at unreported
      cases unreported
  case errors =>
    -- The status changes only once, and nothing has been taken before it does.
    dsimp only [error?]
    rcases Reader.status_advance advances with ⟨same, -⟩ | ⟨unreported, -⟩
    · rw [same]
      exact delivers.errors
    · rw [delivers.taken_of_unreported unreported]
      rfl

/-- Looking for an item keeps what holds of a delivery. -/
theorem pull (delivers : Delivers feed delivery) :
    Delivers feed delivery.pull.2 := by
  unfold Delivery.pull
  split
  · next item rest queue =>
    have moved : delivery.received ++ [item] ++
        (Reader.outstanding { delivery.reader with queue := rest }).items =
        delivery.received ++ delivery.reader.outstanding.items := by
      rw [Reader.outstanding_of_queue queue]
      exact List.append_assoc _ _ _
    refine ⟨delivers.flagged, ?first, ?whole, delivers.ends, delivers.silent,
      delivers.errors⟩
    case first =>
      exact moved ▸ delivers.first
    case whole =>
      intro calm
      exact (congrArg (Feed.mk · _) moved).trans (delivers.whole calm)
  · exact delivers

/-- Taking the error keeps what holds of a delivery. -/
theorem takeError (delivers : Delivers feed delivery) :
    Delivers feed delivery.takeError := by
  refine ⟨delivers.flagged, delivers.first, delivers.whole, delivers.ends,
    delivers.silent, ?_⟩
  dsimp only [Delivery.takeError, error?]
  rw [← error?, delivers.errors]
  cases delivery.reader.status.fault? <;> rfl

/-- Whatever happens keeps what holds of a delivery. -/
theorem act
    {action : Action}
    (delivers : Delivers feed delivery)
    (acts : delivery.act capacity action = some next) :
    Delivers feed next := by
  cases action with
  | read => exact delivers.read acts
  | pull =>
      cases acts
      exact delivers.pull
  | takeError =>
      cases acts
      exact delivers.takeError
  | flag =>
      cases acts
      exact ⟨fun _ => rfl, delivers.first, nofun, nofun, delivers.silent,
        delivers.errors⟩
  | shut =>
      rw [Delivery.act] at acts
      split at acts
      · next flagged =>
        cases acts
        exact ⟨fun _ => flagged, delivers.first, delivers.whole, delivers.ends,
          delivers.silent, delivers.errors⟩
      · cases acts

theorem follow
    {actions : List Action}
    (delivers : Delivers feed delivery)
    (follows : delivery.follow capacity actions = some next) :
    Delivers feed next := by
  induction actions generalizing delivery with
  | nil =>
      cases follows
      exact delivers
  | cons action actions hypothesis =>
      obtain ⟨middle, acts, follows⟩ := Option.bind_eq_some_iff.1 follows
      exact hypothesis (delivers.act acts) follows

/-- Whoever finds the queue closed without having told the reader to stop has received
the whole feed, and can tell from the status how it ended. -/
theorem finished
    {stream : KeyStream}
    (delivers : Delivers (Feed.ofReads stream.reads) delivery)
    (calm : delivery.flagged = false)
    (finds : delivery.pull.1 = .finished) :
    delivery.received = stream.delivered ∧
      delivery.reader.status = .ofFault? stream.fault? := by
  have queue : delivery.reader.queue = [] := by
    cases queue : delivery.reader.queue with
    | nil => rfl
    | cons item rest => simp [Delivery.pull, queue] at finds
  have gone : delivery.reader.isGone = true := by
    have unshut := delivers.shut_of_unflagged calm
    simpa [Delivery.pull, queue, unshut] using finds
  have whole := delivers.whole calm
  rw [KeyStream.feed_eq, Reader.outstanding_of_gone gone queue] at whole
  obtain ⟨received, ending⟩ := Feed.mk.inj whole
  rw [List.append_nil] at received
  have final := (delivers.ends calm).isFinal_of_gone gone
  exact ⟨received, ReaderStatus.eq_ofFault? final ending⟩

end Delivers

/-- As long as the queue has not been found closed, something can happen that leaves
less to do: an item can be received, or the reader has room to go on. -/
theorem exists_act_of_unfinished
    (roomy : 0 < capacity)
    (unfinished : delivery.pull.1 ≠ .finished) :
    ∃ action next, delivery.act capacity action = some next ∧
      next.flagged = delivery.flagged ∧
      next.reader.load 1 < delivery.reader.load 1 := by
  cases queue : delivery.reader.queue with
  | cons item rest =>
      refine ⟨.pull, delivery.pull.2, rfl, ?_, ?_⟩
      · simp only [pull, queue]
      · have taken := Reader.load_of_queue 1 queue
        simp only [pull, queue]
        omega
  | nil =>
      have reading : delivery.heeding.isGone = false := by
        cases gone : delivery.reader.isGone with
        | false => exact gone
        | true => simp [pull, queue, gone] at unfinished
      have goes : delivery.heeding.advance capacity ≠ none :=
        Reader.advance_ne_none roomy queue reading
      obtain ⟨reader, advances⟩ := Option.ne_none_iff_exists'.1 goes
      have less : reader.load 1 < delivery.heeding.load 1 :=
        Reader.load_advance 1 advances
      refine ⟨.read, { delivery with reader := reader }, ?_, rfl, less⟩
      rw [act, read, advances]
      rfl

/-- Whatever has happened, the queue can come to be found closed without the reader
being told to stop. -/
theorem exists_follow_finished
    (roomy : 0 < capacity)
    (delivery : Delivery) :
    ∃ actions last, delivery.follow capacity actions = some last ∧
      last.flagged = delivery.flagged ∧ last.pull.1 = .finished := by
  -- Each step taken here leaves less to do for the reader and the receiver.
  induction work : delivery.reader.load 1 using Nat.strong_induction_on
    generalizing delivery with
  | h load hypothesis =>
      by_cases finds : delivery.pull.1 = .finished
      · exact ⟨[], delivery, rfl, rfl, finds⟩
      · obtain ⟨action, next, acts, same, less⟩ :=
          exists_act_of_unfinished roomy finds
        obtain ⟨actions, last, follows, kept, finds⟩ :=
          hypothesis _ (work ▸ less) next rfl
        refine ⟨action :: actions, last, ?_, kept.trans same, finds⟩
        rw [follow, acts]
        exact follows

/-- However the steps of a reader and of its receiver fall, what has been received is the
beginning of the feed, which is what the stream delivers before its first failing read. As
long as the receiver has not told the reader to stop, the queue can come to be found
closed. Whoever finds it closed then has received all of the feed, the reader tells that
the stream was exhausted or what the failing read failed with, and that error is there to
be taken once. -/
theorem receiving_follows_stream
    {stream : KeyStream}
    {actions : List Action}
    (roomy : 0 < capacity)
    (follows : (start stream).follow capacity actions = some delivery) :
    Feed.ofReads stream.reads =
        ⟨stream.delivered, FeedEnd.ofFault? stream.fault?⟩ ∧
      delivery.received <+: stream.delivered ∧
      (delivery.flagged = false ->
        (delivery.pull.1 = .finished ->
          delivery.received = stream.delivered ∧
            delivery.reader.status = .ofFault? stream.fault? ∧
            delivery.taken ++ delivery.error?.toList = stream.fault?.toList) ∧
        ∃ more last, delivery.follow capacity more = some last ∧
          last.flagged = false ∧ last.pull.1 = .finished) := by
  have delivers := (delivers_start stream).follow follows
  have first := delivers.first
  rw [KeyStream.feed_eq] at first
  refine ⟨stream.feed_eq, (List.prefix_append _ _).trans first, fun calm =>
    ⟨fun finds => ?_, ?_⟩⟩
  · obtain ⟨received, status⟩ := delivers.finished calm finds
    refine ⟨received, status, ?_⟩
    rw [delivers.errors, status, ReaderStatus.fault?_ofFault?]
  · obtain ⟨more, last, goes, same, finds⟩ :=
      exists_follow_finished roomy delivery
    exact ⟨more, last, goes, same.trans calm, finds⟩

/-- Two vertices with a hidden one between them, before a read that fails. -/
def interrupted : KeyStream where
  reads :=
    [.record ⟨VertexId.key 4, []⟩, .record ⟨VertexId.key 6, []⟩,
      .record ⟨VertexId.key 8, []⟩, .failure (.injected 3)]
  stall := none

/-- Steps in which the reader waits for room, and fails before all is received. -/
def crossing : List Action :=
  List.replicate 7 .read ++ .pull :: List.replicate 5 .read ++
    [.takeError, .pull, .read]

theorem receiving_follows_interrupted :
    ∃ delivery,
      (start interrupted).follow 1 crossing = some delivery ∧
        delivery.flagged = false ∧
        delivery.pull.1 = .finished ∧
        delivery.received = [⟨4, []⟩, ⟨8, []⟩] ∧
        delivery.reader.status = .failed (.injected 3) ∧
        delivery.taken ++ delivery.error?.toList = [.injected 3] := by
  obtain ⟨delivery, follows⟩ := Option.isSome_iff_exists.1
    (show ((start interrupted).follow 1 crossing).isSome by decide +kernel)
  have calm : ((start interrupted).follow 1 crossing).map flagged =
      some false := by decide +kernel
  have finds : ((start interrupted).follow 1 crossing).map (pull · |>.1) =
      some .finished := by decide +kernel
  rw [follows] at calm finds
  have calm := Option.some.inj calm
  have finds := Option.some.inj finds
  obtain ⟨-, -, unflagged⟩ := receiving_follows_stream (by decide) follows
  obtain ⟨received, status, errors⟩ := (unflagged calm).1 finds
  have delivered : interrupted.delivered = [⟨4, []⟩, ⟨8, []⟩] := by
    decide +kernel
  have fault : interrupted.fault? = some (.injected 3) := by decide +kernel
  rw [delivered] at received
  rw [fault] at status errors
  exact ⟨delivery, follows, calm, finds, received, status, errors⟩

end Delivery
end GraphSweep
