import GraphSweep.Pipeline.Lifetime
import GraphSweep.Proofs.Pipeline.Progress
import Mathlib.Data.List.Count

/-!
# What is done to the read context

A job under way puts on record what it does to its read context. Each stream is
closed by its reader, and only once: on the step that leads out of its last read. The
context is released only while no reader is left. So wherever a release stands on
record, the closings of all streams stand before it.
-/

namespace GraphSweep

namespace ContextEvent

/-- Each time the context was released, all streams had been closed. -/
def ClosesFirst (events : List ContextEvent) : Prop :=
  ∀ before after, events = before ++ released :: after ->
    ∀ stream, opened stream ∈ events -> closed stream ∈ before

/-- A record of streams, of which some have been closed. -/
structure Records
    (events : List ContextEvent)
    (closures : List Bool) : Prop where
  opened : ∀ stream, events.count (opened stream) =
    if stream < closures.length then 1 else 0
  closed : ∀ stream, events.count (closed stream) =
    if closures[stream]? = some true then 1 else 0
  first : ClosesFirst events

/-- One event more leaves the releases before it as they are. -/
theorem ClosesFirst.concat
    {events : List ContextEvent}
    {event : ContextEvent}
    (first : ClosesFirst events)
    (later : ∀ stream, event ≠ opened stream)
    (closed : event = released ->
      ∀ stream, opened stream ∈ events -> closed stream ∈ events) :
    ClosesFirst (events ++ [event]) := by
  intro before after split stream member
  have known : opened stream ∈ events := by
    rcases List.mem_append.1 member with old | new
    · exact old
    · exact absurd (List.mem_singleton.1 new).symm (later stream)
  rcases List.eq_nil_or_concat after with rfl | ⟨earlier, last, rfl⟩
  · obtain ⟨rfl, same⟩ := List.append_inj' split rfl
    exact closed (List.cons.inj same).1 stream known
  · have shape : before ++ released :: (earlier ++ [last]) =
        (before ++ released :: earlier) ++ [last] := by simp
    rw [List.concat_eq_append, shape] at split
    exact first before earlier (List.append_inj' split rfl).1 stream known

/-- Opening some streams opens each of them once. -/
theorem records_openings (count : Nat) :
    Records (openings count) (List.replicate count false) := by
  refine ⟨fun stream => ?_, fun stream => ?_, fun before after split => ?_⟩
  · have once := List.count_map_of_injective (List.range count) opened
      (fun _ _ same => opened.inj same) stream
    rw [openings, once, List.nodup_range.count, List.length_replicate]
    simp only [List.mem_range]
  · have none : closed stream ∉ openings count := by simp [openings]
    rw [List.count_eq_zero.2 none, List.getElem?_replicate]
    split <;> simp
  · have absent : released ∉ openings count := by simp [openings]
    exact absurd (by rw [split]; simp) absent

namespace Records

variable {events : List ContextEvent} {closures : List Bool}

/-- A stream that is open is closed. -/
theorem close
    {stream : Nat}
    (records : Records events closures)
    (going : closures[stream]? = some false) :
    Records (events ++ [ContextEvent.closed stream])
      (closures.set stream true) := by
  refine ⟨fun other => ?_, fun other => ?_, records.first.concat nofun nofun⟩
  · simp [List.count_append, records.opened other]
  · have within : stream < closures.length :=
      (List.getElem?_eq_some_iff.1 going).1
    rw [List.count_append, records.closed other, List.getElem?_set]
    by_cases same : stream = other
    · subst same
      rw [going]
      simp [within]
    · have different : ContextEvent.closed stream ≠ .closed other :=
        fun alike => same (closed.inj alike)
      simp [same, different]

/-- The context is released when all streams have been closed. -/
theorem release
    (records : Records events closures)
    (closed : ∀ closure ∈ closures, closure = true) :
    Records (events ++ [released]) closures := by
  refine ⟨fun other => ?_, fun other => ?_, ?_⟩
  · simp [List.count_append, records.opened other]
  · simp [List.count_append, records.closed other]
  · refine records.first.concat nofun fun _ stream member => ?_
    have once := List.count_pos_iff.2 member
    rw [records.opened] at once
    have within : stream < closures.length := by
      by_contra beyond
      simp [beyond] at once
    have done : closures[stream]? = some true := by
      rw [List.getElem?_eq_getElem within,
        closed _ (List.getElem_mem within)]
    rw [← List.count_pos_iff, records.closed, if_pos done]
    exact Nat.one_pos

end Records
end ContextEvent

/-- Whether a reader that is about to do something has closed its stream. -/
def ReaderPhase.hasClosed : ReaderPhase -> Bool
  | .reporting _ | .leaving | .gone => true
  | .looking | .fetching | .offering _ | .closing _ => false

namespace Reader

/-- Whether a reader has closed its stream. -/
def hasClosed (reader : Reader) : Bool := reader.phase.hasClosed

theorem hasClosed_of_gone {reader : Reader} (gone : reader.isGone) :
    reader.hasClosed := by
  rw [hasClosed, isGone_iff.1 gone]
  rfl

/-- A reader that is about to close its stream does, and no other step closes it. -/
theorem hasClosed_advance
    {capacity : Nat}
    {reader next : Reader}
    (advances : reader.advance capacity = some next) :
    (∃ status, reader.phase = .closing status ∧
      reader.hasClosed = false ∧ next.hasClosed = true) ∨
    ((∀ status, reader.phase ≠ .closing status) ∧
      next.hasClosed = reader.hasClosed) := by
  cases advances_of_advance advances with
  | closes status phase =>
      refine Or.inl ⟨status, phase, ?_, rfl⟩
      rw [hasClosed, phase]
      rfl
  | looks phase | heeds phase | ends phase | fails _ _ _ phase
  | passes _ _ phase | finds _ _ _ phase | puts _ phase | forgets _ phase
  | reports _ phase | leaves phase =>
      refine Or.inr ⟨fun status closing => ?_, ?_⟩
      · rw [phase] at closing
        cases closing
      · rw [hasClosed, hasClosed, phase]
        rfl

end Reader

namespace Channel

variable {policy : FailurePolicy} {channel next : Channel} {id : VertexId}

/-- Looking at a channel closes nothing. -/
theorem hasClosed_of_moved
    {dropped : Nat}
    (moved : channel.glance policy id = .moved next dropped) :
    next.stream = channel.stream ∧
      next.reader.hasClosed = channel.reader.hasClosed := by
  have glances := channel.glances policy id
  rw [moved] at glances
  cases glances with
  | drops | takes | finishes => exact ⟨rfl, rfl⟩

theorem hasClosed_of_passed
    {entries : Option (List Entry)}
    (passed : channel.glance policy id = .passed next entries) :
    next.stream = channel.stream ∧
      next.reader.hasClosed = channel.reader.hasClosed := by
  have glances := channel.glances policy id
  rw [passed] at glances
  cases glances with
  | claims | keeps | lacks => exact ⟨rfl, rfl⟩

end Channel

namespace Pipeline

variable {σ ρ : Type} {setup : Setup σ ρ} {pipeline next : Pipeline σ ρ}

/-- Which of its streams a job has closed. -/
def closures (pipeline : Pipeline σ ρ) : List Bool :=
  pipeline.readers.map Reader.hasClosed

/-- The channels are named by their streams, in order. -/
def Named (pipeline : Pipeline σ ρ) : Prop :=
  pipeline.channels.map Channel.stream =
    List.range' 1 pipeline.channels.length

/-- When all readers have stopped, all streams have been closed. -/
theorem closures_of_stopped (stopped : pipeline.stopped) :
    ∀ closure ∈ pipeline.closures, closure = true := by
  rw [Pipeline.stopped, Bool.and_eq_true, List.all_eq_true] at stopped
  intro closure member
  obtain ⟨reader, found, rfl⟩ := List.mem_map.1 member
  rcases List.mem_cons.1 found with rfl | other
  · exact Reader.hasClosed_of_gone stopped.1
  · obtain ⟨channel, present, rfl⟩ := List.mem_map.1 other
    exact Reader.hasClosed_of_gone (stopped.2 channel present)

/-- Telling the readers to stop closes nothing. -/
@[simp] theorem closures_cancelReaders :
    pipeline.cancelReaders.closures = pipeline.closures := by
  simp only [closures, readers, cancelReaders, List.map_cons, List.map_map]
  rfl

/-- The context is released only while no reader is left. -/
theorem stopped_of_release
    [Mergeable σ]
    {order : List VertexId}
    (acts : pipeline.release setup order = some next) :
    pipeline.stopped := by
  unfold release at acts
  split at acts
  · split at acts
    · next ready =>
      rw [Bool.and_eq_true] at ready
      exact ready.1
    · cases acts
  · cases acts

/-- What an action may put on record. -/
inductive Notes (pipeline next : Pipeline σ ρ) : Prop
  | nothing
      (events : next.events = pipeline.events)
      (closures : next.closures = pipeline.closures)
  | closes
      (stream : Nat)
      (going : pipeline.closures[stream]? = some false)
      (events : next.events = pipeline.events ++ [.closed stream])
      (closures : next.closures = pipeline.closures.set stream true)
  | releases
      (stopped : pipeline.stopped)
      (events : next.events = pipeline.events ++ [.released])
      (closures : next.closures = pipeline.closures)

/-- Exchanging a channel for one that stands alike closes nothing. -/
theorem closures_set
    {position : Nat}
    {channel other : Channel}
    (found : pipeline.channels[position]? = some channel)
    (alike : other.reader.hasClosed = channel.reader.hasClosed) :
    ((pipeline.channels.set position other).map Channel.reader).map
        Reader.hasClosed =
      (pipeline.channels.map Channel.reader).map Reader.hasClosed := by
  rw [List.map_map, List.map_map]
  exact map_set_of_eq found alike

/-- The stream of a channel that is named is the one behind its position. -/
theorem Named.stream_eq
    {position : Nat}
    {channel : Channel}
    (named : pipeline.Named)
    (found : pipeline.channels[position]? = some channel) :
    channel.stream = position + 1 := by
  have within := (List.getElem?_eq_some_iff.1 found).1
  have entry := congrArg (fun streams => streams[position]?) named
  simp only [List.getElem?_map, found, Option.map_some,
    List.getElem?_range' within, Option.some.injEq] at entry
  omega

theorem notes_of_read
    {stream : Nat}
    (named : pipeline.Named)
    (acts : pipeline.read setup stream = some next) :
    pipeline.Notes next := by
  cases stream with
  | zero =>
      obtain ⟨reader, advances, rfl⟩ := Option.map_eq_some_iff.1 acts
      rcases Reader.hasClosed_advance advances with
        ⟨status, closing, going, closed⟩ | ⟨other, same⟩
      · refine Notes.closes 0 ?_ ?_ ?_
        · simp [closures, readers, going]
        · simp [noteClosing, closing]
        · simp [noteClosing, closing, closures, readers, closed]
      · have noted : noteClosing { pipeline with primary := reader } 0
            pipeline.primary = { pipeline with primary := reader } := by
          unfold noteClosing
          split
          · next status closing => exact absurd closing (other status)
          · rfl
        rw [noted]
        exact Notes.nothing rfl (by simp [closures, readers, same])
  | succ position =>
      simp only [read] at acts
      cases found : pipeline.channels[position]? with
      | none => simp [found] at acts
      | some channel =>
          simp only [found] at acts
          obtain ⟨reader, advances, rfl⟩ := Option.map_eq_some_iff.1 acts
          rw [named.stream_eq found]
          rcases Reader.hasClosed_advance advances with
            ⟨status, closing, going, closed⟩ | ⟨other, same⟩
          · refine Notes.closes (position + 1) ?_ ?_ ?_
            · simp [closures, readers, found, going]
            · simp [noteClosing, closing]
            · simp [noteClosing, closing, closures, readers, closed,
                List.map_set]
          · have noted (read : Pipeline σ ρ) :
                noteClosing read (position + 1) channel.reader = read := by
              unfold noteClosing
              split
              · next status closing => exact absurd closing (other status)
              · rfl
            rw [noted]
            refine Notes.nothing rfl ?_
            rw [closures, closures, readers, readers, List.map_cons,
              List.map_cons, closures_set found same]

theorem notes_of_joins (joins : pipeline.Joins setup next) :
    pipeline.Notes next := by
  cases joins with
  | skips | meets | chokes | drains | breaks | fails | completes | deletes
  | queues | inlines | resumes => exact Notes.nothing rfl rfl
  | moves id live fetched position channel moved dropped phase found glance =>
      have same := (Channel.hasClosed_of_moved glance).2
      refine Notes.nothing rfl ?_
      rw [closures, closures, readers, readers, List.map_cons, List.map_cons,
        closures_set found same]
  | passes id live fetched position channel passed entries phase found glance =>
      have same := (Channel.hasClosed_of_passed glance).2
      refine Notes.nothing rfl ?_
      rw [closures, closures, readers, readers, List.map_cons, List.map_cons,
        closures_set found same]
  | stops | abandons => exact Notes.nothing rfl closures_cancelReaders
  | ends error phase stopped => exact Notes.releases stopped rfl rfl

/-- All that an action puts on record is a closing of a stream that is open, or a
release once all readers have stopped. -/
theorem notes_of_act
    [Mergeable σ]
    {action : Action}
    (named : pipeline.Named)
    (acts : pipeline.act setup action = some next) :
    pipeline.Notes next := by
  cases action with
  | read stream => exact notes_of_read named acts
  | join => exact notes_of_joins (joins_of_join acts)
  | release order =>
      have stopped := stopped_of_release acts
      cases releases_of_release acts with
      | refused | merged | plain => exact Notes.releases stopped rfl rfl
  | pick =>
      obtain ⟨view, rest, queue, rfl⟩ := pick_eq_some acts
      exact Notes.nothing rfl rfl
  | work position =>
      cases works_of_work acts with
      | writes | finishes => exact Notes.nothing rfl rfl
  | breakOff position =>
      obtain ⟨-, -, rfl⟩ := breakOff_eq_some acts
      exact Notes.nothing rfl rfl
  | expire =>
      obtain ⟨phase, rfl, -, -⟩ := expire_eq_some acts
      exact Notes.nothing rfl rfl

theorem streams_of_joins (joins : pipeline.Joins setup next) :
    next.channels.map Channel.stream =
      pipeline.channels.map Channel.stream := by
  cases joins with
  | skips | meets | chokes | drains | breaks | fails | completes | deletes
  | queues | inlines | resumes | ends => rfl
  | moves id live fetched position channel moved dropped phase found glance =>
      exact map_set_of_eq found (Channel.hasClosed_of_moved glance).1
  | passes id live fetched position channel passed entries phase found glance =>
      exact map_set_of_eq found (Channel.hasClosed_of_passed glance).1
  | stops | abandons => exact List.map_map

/-- Channels keep their streams. -/
theorem streams_act
    [Mergeable σ]
    {action : Action}
    (acts : pipeline.act setup action = some next) :
    next.channels.map Channel.stream =
      pipeline.channels.map Channel.stream := by
  cases action with
  | read stream =>
      cases reads_of_read acts with
      | primary => rfl
      | channel position channel reader events found advances =>
          exact map_set_of_eq found rfl
  | join => exact streams_of_joins (joins_of_join acts)
  | release order =>
      cases releases_of_release acts with
      | refused | merged | plain => rfl
  | pick =>
      obtain ⟨view, rest, queue, rfl⟩ := pick_eq_some acts
      rfl
  | work position =>
      cases works_of_work acts with
      | writes | finishes => rfl
  | breakOff position =>
      obtain ⟨-, -, rfl⟩ := breakOff_eq_some acts
      rfl
  | expire =>
      obtain ⟨phase, rfl, -, -⟩ := expire_eq_some acts
      rfl

theorem Named.of_streams
    (named : pipeline.Named)
    (same : next.channels.map Channel.stream =
      pipeline.channels.map Channel.stream) :
    next.Named := by
  have length : next.channels.length = pipeline.channels.length := by
    simpa using congrArg List.length same
  rw [Named, same, length]
  exact named

/-- What a job does to its read context is in order. -/
structure Kept (pipeline : Pipeline σ ρ) : Prop where
  named : pipeline.Named
  records : ContextEvent.Records pipeline.events pipeline.closures

/-- Whatever happens, what a job does to its read context stays in order. -/
theorem Kept.act
    [Mergeable σ]
    {action : Action}
    (kept : pipeline.Kept)
    (acts : pipeline.act setup action = some next) :
    next.Kept := by
  refine ⟨kept.named.of_streams (streams_act acts), ?_⟩
  cases notes_of_act kept.named acts with
  | nothing events closures =>
      rw [events, closures]
      exact kept.records
  | closes stream going events closures =>
      rw [events, closures]
      exact kept.records.close going
  | releases stopped events closures =>
      rw [events, closures]
      exact kept.records.release (closures_of_stopped stopped)

theorem map_stream_start
    (stream : Nat)
    (queries : List Slice)
    (sources : List KeyStream)
    (paired : queries.length = sources.length) :
    (Channel.start stream queries sources).map Channel.stream =
      List.range' stream sources.length := by
  induction queries generalizing stream sources with
  | nil =>
      rw [List.length_nil] at paired
      rw [← paired]
      rfl
  | cons query queries hypothesis =>
      cases sources with
      | nil => cases paired
      | cons source sources =>
          rw [Channel.start, List.map_cons,
            hypothesis _ _ (Nat.succ.inj paired)]
          rfl

theorem hasClosed_start
    {stream : Nat}
    {queries : List Slice}
    {sources : List KeyStream}
    {channel : Channel}
    (member : channel ∈ Channel.start stream queries sources) :
    channel.reader.hasClosed = false := by
  induction queries generalizing stream sources with
  | nil => cases member
  | cons query queries hypothesis =>
      cases sources with
      | nil => cases member
      | cons source sources =>
          rcases List.mem_cons.1 member with rfl | later
          · rfl
          · exact hypothesis later

/-- A job that has been started has opened its streams and done nothing else. -/
theorem kept_start
    {queries : List Slice}
    (primary : KeyStream)
    {others : List KeyStream}
    (store : StateStore σ)
    (paired : queries.length = others.length) :
    (Pipeline.start (ρ := ρ) queries primary others store).Kept := by
  have streams := map_stream_start 1 queries others paired
  have length := congrArg List.length streams
  rw [List.length_map, List.length_range'] at length
  refine ⟨?_, ?_⟩
  · change (Channel.start 1 queries others).map Channel.stream =
      List.range' 1 (Channel.start 1 queries others).length
    rw [streams, length]
  · have going : (Pipeline.start (ρ := ρ) queries primary others
        store).closures = List.replicate (others.length + 1) false := by
      rw [List.eq_replicate_iff]
      refine ⟨by simp [closures, readers, start, length], ?_⟩
      intro closure member
      obtain ⟨reader, found, rfl⟩ := List.mem_map.1 member
      rcases List.mem_cons.1 found with rfl | other
      · rfl
      · obtain ⟨channel, present, rfl⟩ := List.mem_map.1 other
        exact hasClosed_start present
    rw [going]
    exact ContextEvent.records_openings _

end Pipeline

/-! ## How often the context is released -/

namespace JobError

/-- Whether the join itself runs into an error, before it has come to its end. -/
def isFatal : JobError -> Bool
  | .stalled _ _ | .stopTimeout _ _ | .probeDecode _ _ | .readFailed _ _ => true
  | _ => false

/-- How often the context is released before a job is given up for an error: an error
of storage comes of a release that failed. -/
def releases : JobError -> Nat
  | .storage _ => 1
  | _ => 0

theorem releases_of_isFatal {error : JobError} (fatal : error.isFatal) :
    error.releases = 0 := by
  cases error <;> first | rfl | cases fatal

end JobError

/-- How often the context has been released when the join is about to do something,
unless it has stopped waiting for its readers. -/
def JoinPhase.releases : JoinPhase -> Nat
  | .failing error | .abandoning error => error.releases
  | .ended (.ok _) => 1
  | .ended (.error error) => error.releases + 1
  | _ => 0

/-- The join runs into reads that fail. -/
theorem ReaderStatus.isFatal_of_verdict
    {policy : FailurePolicy}
    {stream : Nat}
    {status : ReaderStatus}
    {error : JobError}
    (badly : status.verdict policy stream = .error error) :
    error.isFatal := by
  cases status with
  | failed source =>
      cases policy with
      | fail =>
          cases badly
          rfl
      | truncate => cases badly
  | running | exhausted | cancelled => cases badly

/-- The join runs into probes that cannot be read. -/
theorem Item.isFatal_of_exists?
    {item : Item}
    {error : JobError}
    (chokes : item.exists? = .error error) :
    error.isFatal := by
  unfold Item.exists? at chokes
  split at chokes
  · cases chokes
    rfl
  · split at chokes
    · cases chokes
      rfl
    · cases chokes

/-- The join runs into channels that end badly. -/
theorem Channel.isFatal_of_broken
    {policy : FailurePolicy}
    {channel : Channel}
    {id : VertexId}
    {error : JobError}
    (broken : channel.glance policy id = .broken error) :
    error.isFatal := by
  have glances := channel.glances policy id
  rw [broken] at glances
  cases glances with
  | breaks _ empty going drained gone badly =>
      exact ReaderStatus.isFatal_of_verdict badly

namespace Pipeline

variable {σ ρ : Type} {setup : Setup σ ρ} {pipeline next : Pipeline σ ρ}

/-- All that a wait that runs out can be. -/
inductive Expires
    (setup : Setup σ ρ)
    (pipeline : Pipeline σ ρ) : Pipeline σ ρ -> Prop
  | stalls
      (stream : Nat)
      (waits : pipeline.phase = .probing ∨
        ∃ id live fetched position,
          pipeline.phase = .seeking id live fetched position) :
      Expires setup pipeline { pipeline with
        phase := .failing (.stalled stream setup.timeout) }
  | lasts
      (component : Component)
      (waits : pipeline.phase = .draining ∨ pipeline.phase = .stopping) :
      Expires setup pipeline { pipeline with
        phase := .failing (.stopTimeout component setup.timeout) }
  | deserts
      (error : JobError)
      (phase : pipeline.phase = .abandoning error)
      (reading : pipeline.stopped = false) :
      Expires setup pipeline { pipeline with phase := .ended (.error error) }

theorem expires_of_expire (acts : pipeline.expire setup = some next) :
    pipeline.Expires setup next := by
  unfold expire at acts
  cases phase : pipeline.phase with
  | probing =>
      simp only [phase] at acts
      split at acts
      · cases acts
        exact Expires.stalls 0 (Or.inl phase)
      · cases acts
  | seeking id live fetched position =>
      simp only [phase] at acts
      split at acts
      · cases acts
      · split at acts
        · cases acts
          exact Expires.stalls _ (Or.inr ⟨id, live, fetched, position, phase⟩)
        · cases acts
  | draining =>
      simp only [phase] at acts
      split at acts
      · cases acts
      · cases acts
        exact Expires.lasts .workers (Or.inl phase)
  | stopping =>
      simp only [phase] at acts
      split at acts
      · cases acts
      · cases acts
        exact Expires.lasts .readers (Or.inr phase)
  | abandoning error =>
      simp only [phase] at acts
      split at acts
      · cases acts
      · next reading =>
        cases acts
        exact Expires.deserts error phase (by simpa using reading)
  | submitting | inlining | failing | ended => simp [phase] at acts

/-- Only the join, a release or a wait that runs out changes what the join is about
to do. -/
theorem phase_act
    [Mergeable σ]
    {action : Action}
    (acts : pipeline.act setup action = some next) :
    next.phase = pipeline.phase ∨
      action = .join ∧ pipeline.Joins setup next ∨
      (∃ order, pipeline.Releases setup order next) ∨
      pipeline.Expires setup next := by
  cases action with
  | read stream =>
      cases reads_of_read acts with
      | primary | channel => exact Or.inl rfl
  | join => exact Or.inr (Or.inl ⟨rfl, joins_of_join acts⟩)
  | release order =>
      exact Or.inr (Or.inr (Or.inl ⟨order, releases_of_release acts⟩))
  | pick =>
      obtain ⟨view, rest, queue, rfl⟩ := pick_eq_some acts
      exact Or.inl rfl
  | work position =>
      cases works_of_work acts with
      | writes | finishes => exact Or.inl rfl
  | breakOff position =>
      obtain ⟨-, -, rfl⟩ := breakOff_eq_some acts
      exact Or.inl rfl
  | expire => exact Or.inr (Or.inr (Or.inr (expires_of_expire acts)))

/-- A job that has ended stays so. -/
theorem ended_act
    [Mergeable σ]
    {action : Action}
    {result : Except JobError Tally}
    (ended : pipeline.phase = .ended result)
    (acts : pipeline.act setup action = some next) :
    next.phase = .ended result := by
  rcases phase_act acts with same | ⟨rfl, -⟩ | ⟨order, releases⟩ | expires
  · exact same.trans ended
  · simp [act, join, ended] at acts
  · cases releases with
    | refused fault phase | merged phase | plain phase => simp [ended] at phase
  · cases expires with
    | stalls stream waits => simp [ended] at waits
    | lasts component waits => simp [ended] at waits
    | deserts error phase => simp [ended] at phase

/-- A job that is deserted ends with the error that it was given up for. -/
theorem ended_of_deserts
    [Mergeable σ]
    {action : Action}
    (deserts : pipeline.deserts action = true)
    (acts : pipeline.act setup action = some next) :
    ∃ error, next.phase = .ended (.error error) := by
  unfold Pipeline.deserts at deserts
  split at deserts
  · split at deserts
    · next error phase =>
      cases expires_of_expire acts with
      | deserts error phase reading => exact ⟨error, rfl⟩
      | stalls stream waits =>
          rcases waits with other | ⟨_, _, _, _, other⟩ <;>
            simp [phase] at other
      | lasts component waits =>
          rcases waits with other | other <;> simp [phase] at other
    · cases deserts
  · cases deserts

theorem released_noteClosing
    (pipeline : Pipeline σ ρ)
    (stream : Nat)
    (reader : Reader) :
    (pipeline.noteClosing stream reader).events.count .released =
        pipeline.events.count .released ∧
      (pipeline.noteClosing stream reader).phase = pipeline.phase := by
  unfold noteClosing
  split <;> simp

/-- A reader releases nothing. -/
theorem released_of_read
    {stream : Nat}
    (acts : pipeline.read setup stream = some next) :
    next.events.count .released = pipeline.events.count .released ∧
      next.phase = pipeline.phase := by
  cases stream with
  | zero =>
      obtain ⟨reader, -, rfl⟩ := Option.map_eq_some_iff.1 acts
      exact released_noteClosing _ _ _
  | succ position =>
      simp only [read] at acts
      split at acts
      · cases acts
      · obtain ⟨reader, -, rfl⟩ := Option.map_eq_some_iff.1 acts
        exact released_noteClosing _ _ _

theorem released_of_joins (joins : pipeline.Joins setup next) :
    next.events.count .released + pipeline.phase.releases =
      pipeline.events.count .released + next.phase.releases := by
  cases joins with
  | skips | moves => rfl
  | meets item rest live phase | drains phase | passes _ _ _ _ _ _ _ phase
  | completes _ _ _ phase | deletes _ _ _ phase | queues _ phase
  | inlines _ phase | resumes phase | stops phase =>
      rw [phase]
      rfl
  | chokes item rest error phase queue fresh exist =>
      have other := JobError.releases_of_isFatal (Item.isFatal_of_exists? exist)
      simp only [phase, JoinPhase.releases, other]
  | breaks error phase queue gone badly =>
      have other := JobError.releases_of_isFatal
        (ReaderStatus.isFatal_of_verdict badly)
      simp only [phase, JoinPhase.releases, other]
  | fails id live fetched position channel error phase found glance =>
      have other := JobError.releases_of_isFatal
        (Channel.isFatal_of_broken glance)
      simp only [phase, JoinPhase.releases, other]
  | abandons error phase =>
      simp only [phase, JoinPhase.releases]
      rfl
  | ends error phase =>
      simp only [phase, JoinPhase.releases, List.count_append,
        List.count_singleton_self]
      omega

/-- How often the context has been released follows from what the join is about to
do. -/
theorem released_act
    [Mergeable σ]
    {action : Action}
    (acts : pipeline.act setup action = some next) :
    next.events.count .released + (pipeline.deserts action).toNat +
        pipeline.phase.releases =
      pipeline.events.count .released + next.phase.releases := by
  cases action with
  | read stream =>
      obtain ⟨same, phase⟩ := released_of_read acts
      rw [same, phase]
      rfl
  | join =>
      have joins := released_of_joins (joins_of_join acts)
      simpa [deserts] using joins
  | release order =>
      cases releases_of_release acts with
      | refused fault phase fails =>
          simp [deserts, phase, JoinPhase.releases, JobError.releases]
      | merged phase released perm partitioned =>
          cases (pipeline.effects.store.mergeInOrder order).1.isSome <;>
            simp [deserts, phase, JoinPhase.releases, JobError.releases]
      | plain phase => simp [deserts, phase, JoinPhase.releases]
  | pick =>
      obtain ⟨view, rest, queue, rfl⟩ := pick_eq_some acts
      rfl
  | work position =>
      cases works_of_work acts with
      | writes | finishes => rfl
  | breakOff position =>
      obtain ⟨-, -, rfl⟩ := breakOff_eq_some acts
      rfl
  | expire =>
      cases expires_of_expire acts with
      | stalls stream waits =>
          rcases waits with phase | ⟨id, live, fetched, position, phase⟩ <;>
            simp [deserts, phase, JoinPhase.releases, JobError.releases]
      | lasts component waits =>
          rcases waits with phase | phase <;>
            simp [deserts, phase, JoinPhase.releases, JobError.releases]
      | deserts error phase reading =>
          simp only [deserts, phase, JoinPhase.releases, Bool.toNat_true]
          omega

end Pipeline

/-- What a job fails with when the join is at some point, if it fails. -/
def JoinPhase.error? : JoinPhase -> Option JobError
  | .failing error | .abandoning error | .ended (.error error) => some error
  | _ => none

namespace Pipeline

variable {σ ρ : Type} {setup : Setup σ ρ} {pipeline next : Pipeline σ ρ}

/-- A job that fails with an error of storage fails with what releasing its context
fails with. -/
def Blames (setup : Setup σ ρ) (pipeline : Pipeline σ ρ) : Prop :=
  ∀ fault, pipeline.phase.error? = some (.storage fault) ->
    setup.releaseFault = some fault

/-- An error that the join runs into is none of storage. -/
theorem ne_storage_of_isFatal
    {error : JobError}
    (fatal : error.isFatal)
    (fault : StorageError) :
    error ≠ .storage fault := by
  rintro rfl
  cases fatal

theorem Blames.joins
    (blames : pipeline.Blames setup)
    (joins : pipeline.Joins setup next) :
    next.Blames setup := by
  intro fault fails
  cases joins with
  | skips | moves => exact blames fault fails
  | meets | drains | passes | completes | deletes | queues | inlines | resumes
  | stops => cases fails
  | abandons error phase | ends error phase =>
      rw [Blames, phase] at blames
      exact blames fault fails
  | chokes item rest error phase queue fresh exist =>
      exact absurd (Option.some.inj fails)
        (ne_storage_of_isFatal (Item.isFatal_of_exists? exist) fault)
  | breaks error phase queue gone badly =>
      exact absurd (Option.some.inj fails)
        (ne_storage_of_isFatal (ReaderStatus.isFatal_of_verdict badly) fault)
  | fails id live fetched position channel error phase found glance =>
      exact absurd (Option.some.inj fails)
        (ne_storage_of_isFatal (Channel.isFatal_of_broken glance) fault)

theorem Blames.act
    [Mergeable σ]
    {action : Action}
    (blames : pipeline.Blames setup)
    (acts : pipeline.act setup action = some next) :
    next.Blames setup := by
  rcases phase_act acts with same | ⟨-, joins⟩ | ⟨order, releases⟩ | expires
  · rw [Blames, same]
    exact blames
  · exact blames.joins joins
  · intro fault fails
    cases releases with
    | refused error phase broken =>
        cases fails
        exact broken
    | merged =>
        cases merges : (pipeline.effects.store.mergeInOrder order).1.isSome <;>
          simp [merges, JoinPhase.error?] at fails
    | plain => cases fails
  · intro fault fails
    cases expires with
    | stalls | lasts => cases fails
    | deserts error phase =>
        rw [Blames, phase] at blames
        exact blames fault fails

end Pipeline
end GraphSweep
