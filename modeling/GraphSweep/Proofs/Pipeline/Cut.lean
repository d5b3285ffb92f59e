import GraphSweep.Proofs.Pipeline.Steps

/-!
# Jobs under way that truncate failing streams

A job under way can be looked at as if every stream ended before its first failing
read. Where failing streams are truncated, every action then does the same: the
failure of a stream is told in a status that nothing depends on.
-/

namespace GraphSweep

namespace ReaderStatus

/-- How a reader of the cut stream has ended. -/
def cut : ReaderStatus -> ReaderStatus
  | failed _ => exhausted
  | status => status

/-- Where failing streams are truncated, no status is bad. -/
@[simp] theorem verdict_truncate (stream : Nat) (status : ReaderStatus) :
    status.verdict .truncate stream = .ok () := by
  cases status <;> rfl

end ReaderStatus

namespace ReaderPhase

/-- What a reader of the cut stream is about to do. -/
def cut : ReaderPhase -> ReaderPhase
  | closing status => closing status.cut
  | reporting status => reporting status.cut
  | phase => phase

end ReaderPhase

namespace Reader

/-- The reader of the cut stream. -/
def cut (reader : Reader) : Reader :=
  { reader with
    pending := Read.beforeFault reader.pending
    phase := reader.phase.cut
    status := reader.status.cut }

/-- The next read of a cut stream. -/
theorem fetch_beforeFault (pending : List Read) :
    fetch (Read.beforeFault pending) =
      ((fetch pending).1.cut, Read.beforeFault (fetch pending).2) := by
  cases pending with
  | nil => rfl
  | cons read rest =>
      cases fault : read.fault? with
      | some error =>
          rw [Read.beforeFault_cons_of_some rest fault,
            fetch_of_fault rest fault]
          rfl
      | none =>
          rw [Read.beforeFault_cons_of_none rest fault,
            fetch_of_no_fault _ fault, fetch_of_no_fault rest fault]
          cases read.item? <;> rfl

/-- The reader of a cut stream does what the reader does. -/
theorem advance_cut (capacity : Nat) (reader : Reader) :
    reader.cut.advance capacity = (reader.advance capacity).map cut := by
  unfold advance
  cases phase : reader.phase with
  | looking =>
      simp only [cut, phase, ReaderPhase.cut, Option.map_some]
      cases reader.cancelled <;> rfl
  | fetching =>
      simp only [cut, phase, ReaderPhase.cut, Option.map_some,
        fetch_beforeFault]
  | offering item =>
      simp only [cut, phase, ReaderPhase.cut]
      split
      · rfl
      · split <;> rfl
  | closing status | reporting status | leaving | gone =>
      simp only [cut, phase, ReaderPhase.cut, Option.map_some,
        Option.map_none]

@[simp] theorem isGone_cut (reader : Reader) :
    reader.cut.isGone = reader.isGone := by
  rw [isGone, isGone, cut]
  cases reader.phase <;> rfl

end Reader

namespace Channel

/-- The channel of the cut stream. -/
def cut (channel : Channel) : Channel :=
  { channel with reader := channel.reader.cut }

end Channel

namespace Glance

/-- What the join finds when it looks at the channel of the cut stream. -/
def cut : Glance -> Glance
  | waiting => waiting
  | moved channel dropped => moved channel.cut dropped
  | passed channel entries => passed channel.cut entries
  | broken error => broken error

end Glance

namespace Channel

/-- The join finds the same in the channel of a cut stream. -/
theorem glance_cut (channel : Channel) (id : VertexId) :
    channel.cut.glance .truncate id = (channel.glance .truncate id).cut := by
  have gone : channel.cut.reader.isGone = channel.reader.isGone :=
    channel.reader.isGone_cut
  have slot : channel.cut.slot = channel.slot := rfl
  have finished : channel.cut.finished = channel.finished := rfl
  have queue : channel.cut.reader.queue = channel.reader.queue := rfl
  rw [glance, glance, gone, slot, finished, queue]
  cases channel.slot with
  | some item =>
      dsimp only
      split
      · rfl
      · split <;> rfl
  | none =>
      dsimp only
      split
      · rfl
      · cases channel.reader.queue with
        | cons item rest => rfl
        | nil =>
            simp only [ReaderStatus.verdict_truncate]
            split <;> rfl

end Channel

namespace Pipeline

variable {σ ρ : Type}

/-- The job with its streams cut before their first failing reads. -/
def cut (pipeline : Pipeline σ ρ) : Pipeline σ ρ :=
  { pipeline with
    primary := pipeline.primary.cut
    channels := pipeline.channels.map Channel.cut }

theorem outcome?_cut (pipeline : Pipeline σ ρ) :
    pipeline.cut.outcome? = pipeline.outcome? := rfl

@[simp] theorem stopped_cut (pipeline : Pipeline σ ρ) :
    pipeline.cut.stopped = pipeline.stopped := by
  rw [stopped, stopped, cut, List.all_map, Reader.isGone_cut]
  refine congrArg (pipeline.primary.isGone && ·) ?_
  exact congrArg (pipeline.channels.all ·) (funext fun channel =>
    channel.reader.isGone_cut)

@[simp] theorem leftover_cut (pipeline : Pipeline σ ρ) :
    pipeline.cut.leftover = pipeline.leftover := by
  rw [leftover, leftover, cut, List.filter_map, List.length_map]
  rfl

theorem noteClosing_cut
    (pipeline : Pipeline σ ρ)
    (stream : Nat)
    (reader : Reader) :
    pipeline.cut.noteClosing stream reader.cut =
      (pipeline.noteClosing stream reader).cut := by
  rw [noteClosing, noteClosing]
  have phase : reader.cut.phase = reader.phase.cut := rfl
  rw [phase]
  cases reader.phase <;> rfl

section Actions

variable {setup : Setup σ ρ}

theorem getElem?_cut (pipeline : Pipeline σ ρ) (position : Nat) :
    pipeline.cut.channels[position]? =
      (pipeline.channels[position]?).map Channel.cut :=
  List.getElem?_map

/-- The reader of a cut stream does what the reader does. -/
theorem read_cut (pipeline : Pipeline σ ρ) (stream : Nat) :
    pipeline.cut.read setup stream = (pipeline.read setup stream).map cut := by
  cases stream with
  | zero =>
      have primary : pipeline.cut.primary = pipeline.primary.cut := rfl
      rw [read, read, primary, Reader.advance_cut]
      cases pipeline.primary.advance setup.capacity with
      | none => rfl
      | some reader =>
          exact congrArg some (noteClosing_cut { pipeline with
            primary := reader } 0 pipeline.primary)
  | succ position =>
      rw [read, read, getElem?_cut]
      cases pipeline.channels[position]? with
      | none => rfl
      | some channel =>
          have reader : channel.cut.reader = channel.reader.cut := rfl
          simp only [Option.map_some, reader, Reader.advance_cut]
          cases channel.reader.advance setup.capacity with
          | none => rfl
          | some next =>
              have noted := noteClosing_cut { pipeline with
                channels := pipeline.channels.set position
                  { channel with reader := next } }
                channel.stream channel.reader
              simp only [Option.map_some, ← noted]
              simp only [cut, List.map_set]
              rfl

theorem meet_cut (pipeline : Pipeline σ ρ) (item : Item) :
    pipeline.cut.meet item = (pipeline.meet item).cut := by
  have account : pipeline.cut.account = pipeline.account := rfl
  unfold meet
  rw [account]
  split <;> rfl

/-- The join takes the next item of the cut first stream, or sees its end. -/
theorem probe_cut
    (truncates : setup.sweep.policy = .truncate)
    (pipeline : Pipeline σ ρ) :
    pipeline.cut.probe setup = (pipeline.probe setup).map cut := by
  have queue : pipeline.cut.primary.queue = pipeline.primary.queue := rfl
  have gone : pipeline.cut.primary.isGone = pipeline.primary.isGone :=
    pipeline.primary.isGone_cut
  rw [probe, probe, queue, gone, truncates]
  cases pipeline.primary.queue with
  | cons item rest =>
      exact congrArg some (meet_cut { pipeline with
        primary := { pipeline.primary with queue := rest } } item)
  | nil =>
      simp only [ReaderStatus.verdict_truncate]
      split <;> rfl

/-- The join looks at the channel of a cut stream. -/
theorem pipelineSeek_cut
    (truncates : setup.sweep.policy = .truncate)
    (pipeline : Pipeline σ ρ)
    (id : VertexId)
    (live : Bool)
    (fetched : List (Slice × List Entry))
    (position : Nat) :
    pipeline.cut.seek setup id live fetched position =
      (pipeline.seek setup id live fetched position).map cut := by
  rw [seek, seek, getElem?_cut, truncates]
  cases pipeline.channels[position]? with
  | none => cases live <;> rfl
  | some channel =>
      have query : channel.cut.query = channel.query := rfl
      simp only [Option.map_some, Channel.glance_cut, query]
      cases channel.glance .truncate id with
      | waiting | broken => rfl
      | moved next dropped | passed next entries =>
          simp only [Glance.cut, Option.map_some, cut, List.map_set]

theorem submit_cut (pipeline : Pipeline σ ρ) (view : View) :
    pipeline.cut.submit setup view = (pipeline.submit setup view).cut := by
  have queue : pipeline.cut.queue = pipeline.queue := rfl
  rw [submit, submit, queue]
  dsimp only
  split <;> rfl

theorem cancelReaders_cut (pipeline : Pipeline σ ρ) :
    pipeline.cut.cancelReaders = pipeline.cancelReaders.cut := by
  simp only [cancelReaders, cut, List.map_map]
  rfl

/-- The join does with cut streams what it does. -/
theorem join_cut
    (truncates : setup.sweep.policy = .truncate)
    (pipeline : Pipeline σ ρ) :
    pipeline.cut.join setup = (pipeline.join setup).map cut := by
  have phase : pipeline.cut.phase = pipeline.phase := rfl
  have queue : pipeline.cut.queue = pipeline.queue := rfl
  have running : pipeline.cut.running = pipeline.running := rfl
  rw [join, join, phase, queue, running, stopped_cut, cancelReaders_cut]
  cases pipeline.phase with
  | probing => exact probe_cut truncates pipeline
  | seeking id live fetched position =>
      exact pipelineSeek_cut truncates pipeline id live fetched position
  | submitting view => exact congrArg some (submit_cut pipeline view)
  | inlining | draining | abandoning error =>
      dsimp only
      split <;> rfl
  | stopping | failing error | ended result => rfl

theorem conclude_cut
    [Mergeable σ]
    (pipeline : Pipeline σ ρ)
    (order : List VertexId) :
    pipeline.cut.conclude order = (pipeline.conclude order).cut := by
  have account : pipeline.cut.account = pipeline.account := rfl
  have effects : pipeline.cut.effects = pipeline.effects := rfl
  have tally : pipeline.cut.tally = pipeline.tally := by
    rw [Pipeline.tally, Pipeline.tally, leftover_cut]
    rfl
  unfold conclude
  rw [account, effects, tally]
  split <;> rfl

/-- The job of cut streams merges the siblings as the job does. -/
theorem release_cut
    [Mergeable σ]
    (pipeline : Pipeline σ ρ)
    (order : List VertexId) :
    pipeline.cut.release setup order =
      (pipeline.release setup order).map cut := by
  have phase : pipeline.cut.phase = pipeline.phase := rfl
  have effects : pipeline.cut.effects = pipeline.effects := rfl
  rw [release, release, phase, effects, stopped_cut]
  cases pipeline.phase with
  | stopping =>
      dsimp only
      split
      · cases setup.releaseFault with
        | some fault => rfl
        | none =>
            exact congrArg some (conclude_cut { pipeline with
              events := pipeline.events ++ [.released] } order)
      · rfl
  | probing | seeking | submitting | inlining | draining | failing
  | abandoning | ended => rfl

/-- A wait for a cut stream runs out as the wait does. -/
theorem expire_cut
    (truncates : setup.sweep.policy = .truncate)
    (pipeline : Pipeline σ ρ) :
    pipeline.cut.expire setup = (pipeline.expire setup).map cut := by
  have phase : pipeline.cut.phase = pipeline.phase := rfl
  have gone : pipeline.cut.primary.isGone = pipeline.primary.isGone :=
    pipeline.primary.isGone_cut
  have taken : pipeline.cut.primary.queue = pipeline.primary.queue := rfl
  have queue : pipeline.cut.queue = pipeline.queue := rfl
  have running : pipeline.cut.running = pipeline.running := rfl
  rw [expire, expire, phase, stopped_cut, gone, taken, queue, running]
  cases pipeline.phase with
  | seeking id live fetched position =>
      dsimp only
      rw [getElem?_cut, truncates]
      cases pipeline.channels[position]? with
      | none => rfl
      | some channel =>
          simp only [Option.map_some, Channel.glance_cut]
          cases channel.glance .truncate id <;> rfl
  | probing | draining | stopping | abandoning =>
      dsimp only
      split <;> rfl
  | submitting | inlining | failing | ended => rfl

/-- Every action does with cut streams what it does. -/
theorem act_cut
    [Mergeable σ]
    (truncates : setup.sweep.policy = .truncate)
    (pipeline : Pipeline σ ρ)
    (action : Action) :
    pipeline.cut.act setup action = (pipeline.act setup action).map cut := by
  cases action with
  | read stream => exact read_cut pipeline stream
  | join => exact join_cut truncates pipeline
  | release order => exact release_cut pipeline order
  | pick =>
      have queue : pipeline.cut.queue = pipeline.queue := rfl
      have running : pipeline.cut.running = pipeline.running := rfl
      rw [act, act, pick, pick, queue, running]
      cases pipeline.queue with
      | nil => rfl
      | cons view rest =>
          dsimp only
          split <;> rfl
  | work position =>
      have running : pipeline.cut.running = pipeline.running := rfl
      rw [act, act, work, work, running]
      cases pipeline.running[position]? with
      | none => rfl
      | some run =>
          dsimp only
          cases run.due <;> rfl
  | breakOff position =>
      have phase : pipeline.cut.phase = pipeline.phase := rfl
      have running : pipeline.cut.running = pipeline.running := rfl
      rw [act, act, breakOff, breakOff, phase, running]
      split
      · split <;> rfl
      · split <;> rfl
      · rfl
  | expire => exact expire_cut truncates pipeline

/-- Every schedule does with cut streams what it does. -/
theorem follow_cut
    [Mergeable σ]
    (truncates : setup.sweep.policy = .truncate)
    (pipeline : Pipeline σ ρ)
    (actions : List Action) :
    pipeline.cut.follow setup actions =
      (pipeline.follow setup actions).map cut := by
  induction actions generalizing pipeline with
  | nil => rfl
  | cons action actions hypothesis =>
      rw [follow_cons, follow_cons, act_cut truncates pipeline action]
      cases pipeline.act setup action with
      | none => rfl
      | some next => exact hypothesis next

end Actions
end Pipeline
end GraphSweep
