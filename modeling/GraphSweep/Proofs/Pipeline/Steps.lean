import GraphSweep.Pipeline
import GraphSweep.Proofs.Join.Course
import GraphSweep.Proofs.Pipeline.Reader
import GraphSweep.Proofs.StateStore.Siblings

/-!
# The steps of a job under way

All that an action can make of a job under way, said once. What holds in every
reachable state is shown by going through these cases.
-/

namespace GraphSweep

/-- Exchanging an entry of a list for one that looks alike makes no difference. -/
theorem map_set_of_eq
    {α β : Type}
    {look : α -> β}
    {entries : List α}
    {position : Nat}
    {entry other : α}
    (found : entries[position]? = some entry)
    (alike : look other = look entry) :
    (entries.set position other).map look = entries.map look := by
  obtain ⟨within, rfl⟩ := List.getElem?_eq_some_iff.1 found
  have bound : position < (entries.map look).length := by simpa using within
  have looked : look entries[position] = (entries.map look)[position] :=
    List.getElem_map look |>.symm
  rw [List.map_set, alike, looked, List.set_getElem_self]

namespace Channel

/-- All that the join may find when it looks at a channel for a vertex. -/
inductive Glances
    (policy : FailurePolicy)
    (channel : Channel)
    (id : VertexId) : Glance -> Prop
  | drops
      (item : Item)
      (holds : channel.slot = some item)
      (earlier : item.id < id) :
      Glances policy channel id (.moved { channel with slot := none } 1)
  | claims
      (item : Item)
      (holds : channel.slot = some item)
      (same : item.id = id) :
      Glances policy channel id
        (.passed { channel with slot := none } (some item.entries))
  | keeps
      (item : Item)
      (holds : channel.slot = some item)
      (reached : ¬item.id < id)
      (other : item.id ≠ id) :
      Glances policy channel id (.passed channel none)
  | lacks
      (empty : channel.slot = none)
      (finished : channel.finished) :
      Glances policy channel id (.passed channel none)
  | takes
      (item : Item)
      (rest : List Item)
      (empty : channel.slot = none)
      (going : channel.finished = false)
      (next : channel.reader.queue = item :: rest) :
      Glances policy channel id
        (.moved { channel with
          slot := some item
          reader := { channel.reader with queue := rest } } 0)
  | finishes
      (empty : channel.slot = none)
      (going : channel.finished = false)
      (drained : channel.reader.queue = [])
      (gone : channel.reader.isGone)
      (well : channel.reader.status.verdict policy channel.stream = .ok ()) :
      Glances policy channel id (.moved { channel with finished := true } 0)
  | breaks
      (error : JobError)
      (empty : channel.slot = none)
      (going : channel.finished = false)
      (drained : channel.reader.queue = [])
      (gone : channel.reader.isGone)
      (badly : channel.reader.status.verdict policy channel.stream =
        .error error) :
      Glances policy channel id (.broken error)
  | waits
      (empty : channel.slot = none)
      (going : channel.finished = false)
      (drained : channel.reader.queue = [])
      (reading : channel.reader.isGone = false) :
      Glances policy channel id .waiting

theorem glances
    (policy : FailurePolicy)
    (channel : Channel)
    (id : VertexId) :
    channel.Glances policy id (channel.glance policy id) := by
  unfold glance
  cases slot : channel.slot with
  | some item =>
      dsimp only
      split
      · next earlier => exact Glances.drops item slot earlier
      · next reached =>
        split
        · next same => exact Glances.claims item slot same
        · next other => exact Glances.keeps item slot reached other
  | none =>
      dsimp only
      split
      · next finished => exact Glances.lacks slot finished
      · next going =>
        have unfinished : channel.finished = false := by simpa using going
        cases queue : channel.reader.queue with
        | cons item rest =>
            exact Glances.takes item rest slot unfinished queue
        | nil =>
            dsimp only
            split
            · next gone =>
              cases verdict :
                  channel.reader.status.verdict policy channel.stream with
              | ok _ =>
                  have finishes : channel.Glances policy id _ :=
                    Glances.finishes slot unfinished queue gone verdict
                  simpa only [slot] using finishes
              | error error =>
                  exact Glances.breaks error slot unfinished queue gone verdict
            · next reading =>
              exact Glances.waits slot unfinished queue (by simpa using reading)

end Channel

namespace Pipeline

variable {σ ρ : Type}

theorem follow_cons
    [Mergeable σ]
    (setup : Setup σ ρ)
    (pipeline : Pipeline σ ρ)
    (action : Action)
    (actions : List Action) :
    pipeline.follow setup (action :: actions) =
      (pipeline.act setup action).bind fun next =>
        next.follow setup actions := rfl

theorem follow_concat
    [Mergeable σ]
    (setup : Setup σ ρ)
    (pipeline : Pipeline σ ρ)
    (actions : List Action)
    (action : Action) :
    pipeline.follow setup (actions ++ [action]) =
      (pipeline.follow setup actions).bind fun next =>
        next.act setup action := by
  induction actions generalizing pipeline with
  | nil => exact Option.bind_fun_some (pipeline.act setup action)
  | cons first actions hypothesis =>
      rw [List.cons_append, follow_cons, follow_cons, Option.bind_assoc]
      exact congrArg _ (funext hypothesis)

/-- Whether an action neither lets a wait run out nor releases the read context. -/
def Action.isQuiet : Action -> Bool
  | .expire | .release _ => false
  | .read _ | .join | .pick | .work _ | .breakOff _ => true

/-- Closing a stream changes nothing but what is on record. -/
theorem noteClosing_eq
    (pipeline : Pipeline σ ρ)
    (stream : Nat)
    (reader : Reader) :
    ∃ events, pipeline.noteClosing stream reader =
      { pipeline with events := events } := by
  unfold noteClosing
  split
  · exact ⟨_, rfl⟩
  · exact ⟨pipeline.events, rfl⟩

/-- All that a step of a reader can be. -/
inductive Reads
    (setup : Setup σ ρ)
    (pipeline : Pipeline σ ρ) : Pipeline σ ρ -> Prop
  | primary
      (reader : Reader)
      (events : List ContextEvent)
      (advances : pipeline.primary.advance setup.capacity = some reader) :
      Reads setup pipeline { pipeline with
        primary := reader
        events := events }
  | channel
      (position : Nat)
      (channel : Channel)
      (reader : Reader)
      (events : List ContextEvent)
      (found : pipeline.channels[position]? = some channel)
      (advances : channel.reader.advance setup.capacity = some reader) :
      Reads setup pipeline { pipeline with
        channels := pipeline.channels.set position
          { channel with reader := reader }
        events := events }

theorem reads_of_read
    {setup : Setup σ ρ}
    {pipeline next : Pipeline σ ρ}
    {stream : Nat}
    (acts : pipeline.read setup stream = some next) :
    pipeline.Reads setup next := by
  cases stream with
  | zero =>
      obtain ⟨reader, advances, rfl⟩ := Option.map_eq_some_iff.1 acts
      obtain ⟨events, noted⟩ :=
        noteClosing_eq { pipeline with primary := reader } 0 pipeline.primary
      rw [noted]
      exact Reads.primary reader events advances
  | succ position =>
      simp only [read] at acts
      cases found : pipeline.channels[position]? with
      | none => simp [found] at acts
      | some channel =>
          simp only [found] at acts
          obtain ⟨reader, advances, rfl⟩ := Option.map_eq_some_iff.1 acts
          obtain ⟨events, noted⟩ := noteClosing_eq { pipeline with
            channels := pipeline.channels.set position
              { channel with reader := reader } }
            channel.stream channel.reader
          rw [noted]
          exact Reads.channel position channel reader events found advances

/-- All that a step of the join can be. -/
inductive Joins
    (setup : Setup σ ρ)
    (pipeline : Pipeline σ ρ) : Pipeline σ ρ -> Prop
  | skips
      (item : Item)
      (rest : List Item)
      (phase : pipeline.phase = .probing)
      (queue : pipeline.primary.queue = item :: rest)
      (past : pipeline.account.isPast item.id) :
      Joins setup pipeline { pipeline with
        primary := { pipeline.primary with queue := rest }
        account := pipeline.account.skip }
  | meets
      (item : Item)
      (rest : List Item)
      (live : Bool)
      (phase : pipeline.phase = .probing)
      (queue : pipeline.primary.queue = item :: rest)
      (fresh : pipeline.account.isPast item.id = false)
      (exist : item.exists? = .ok live) :
      Joins setup pipeline { pipeline with
        primary := { pipeline.primary with queue := rest }
        account := pipeline.account.meet item.id
        phase := .seeking item.id live [] 0 }
  | chokes
      (item : Item)
      (rest : List Item)
      (error : JobError)
      (phase : pipeline.phase = .probing)
      (queue : pipeline.primary.queue = item :: rest)
      (fresh : pipeline.account.isPast item.id = false)
      (exist : item.exists? = .error error) :
      Joins setup pipeline { pipeline with
        primary := { pipeline.primary with queue := rest }
        account := pipeline.account.meet item.id
        phase := .failing error }
  | drains
      (phase : pipeline.phase = .probing)
      (queue : pipeline.primary.queue = [])
      (gone : pipeline.primary.isGone)
      (well : pipeline.primary.status.verdict setup.sweep.policy 0 = .ok ()) :
      Joins setup pipeline { pipeline with phase := .draining }
  | breaks
      (error : JobError)
      (phase : pipeline.phase = .probing)
      (queue : pipeline.primary.queue = [])
      (gone : pipeline.primary.isGone)
      (badly : pipeline.primary.status.verdict setup.sweep.policy 0 =
        .error error) :
      Joins setup pipeline { pipeline with phase := .failing error }
  | moves
      (id : VertexId)
      (live : Bool)
      (fetched : List (Slice × List Entry))
      (position : Nat)
      (channel moved : Channel)
      (dropped : Nat)
      (phase : pipeline.phase = .seeking id live fetched position)
      (found : pipeline.channels[position]? = some channel)
      (glance : channel.glance setup.sweep.policy id = .moved moved dropped) :
      Joins setup pipeline { pipeline with
        channels := pipeline.channels.set position moved
        account := pipeline.account.drop dropped }
  | passes
      (id : VertexId)
      (live : Bool)
      (fetched : List (Slice × List Entry))
      (position : Nat)
      (channel passed : Channel)
      (entries : Option (List Entry))
      (phase : pipeline.phase = .seeking id live fetched position)
      (found : pipeline.channels[position]? = some channel)
      (glance : channel.glance setup.sweep.policy id = .passed passed entries) :
      Joins setup pipeline { pipeline with
        channels := pipeline.channels.set position passed
        phase := .seeking id live
          (fetched ++
            (entries.map fun entries => (channel.query, entries)).toList)
          (position + 1) }
  | fails
      (id : VertexId)
      (live : Bool)
      (fetched : List (Slice × List Entry))
      (position : Nat)
      (channel : Channel)
      (error : JobError)
      (phase : pipeline.phase = .seeking id live fetched position)
      (found : pipeline.channels[position]? = some channel)
      (glance : channel.glance setup.sweep.policy id = .broken error) :
      Joins setup pipeline { pipeline with phase := .failing error }
  | completes
      (id : VertexId)
      (fetched : List (Slice × List Entry))
      (position : Nat)
      (phase : pipeline.phase = .seeking id true fetched position)
      (spent : pipeline.channels[position]? = none) :
      Joins setup pipeline { pipeline with phase := .submitting ⟨id, fetched⟩ }
  | deletes
      (id : VertexId)
      (fetched : List (Slice × List Entry))
      (position : Nat)
      (phase : pipeline.phase = .seeking id false fetched position)
      (spent : pipeline.channels[position]? = none) :
      Joins setup pipeline { pipeline with
        account := pipeline.account.delete
        phase := .probing }
  | queues
      (view : View)
      (phase : pipeline.phase = .submitting view)
      (room : pipeline.queue.length < setup.capacity) :
      Joins setup pipeline { pipeline with
        account := pipeline.account.dispatch view
        queue := pipeline.queue ++ [view]
        phase := .probing }
  | inlines
      (view : View)
      (phase : pipeline.phase = .submitting view)
      (full : setup.capacity ≤ pipeline.queue.length) :
      Joins setup pipeline { launch setup pipeline view true with
        account := pipeline.account.dispatch view
        phase := .inlining
        inlined := pipeline.inlined + 1 }
  | resumes
      (phase : pipeline.phase = .inlining)
      (idle : pipeline.running.any Running.inlined = false) :
      Joins setup pipeline { pipeline with phase := .probing }
  | stops
      (phase : pipeline.phase = .draining)
      (drained : pipeline.queue = [])
      (idle : pipeline.running = []) :
      Joins setup pipeline { pipeline.cancelReaders with phase := .stopping }
  | abandons
      (error : JobError)
      (phase : pipeline.phase = .failing error) :
      Joins setup pipeline { pipeline.cancelReaders with
        queue := []
        phase := .abandoning error }
  | ends
      (error : JobError)
      (phase : pipeline.phase = .abandoning error)
      (stopped : pipeline.stopped) :
      Joins setup pipeline { pipeline with
        phase := .ended (.error error)
        events := pipeline.events ++ [.released] }

section Join

variable {setup : Setup σ ρ} {pipeline next : Pipeline σ ρ}

theorem joins_of_probe
    (phase : pipeline.phase = .probing)
    (acts : pipeline.probe setup = some next) :
    pipeline.Joins setup next := by
  unfold probe at acts
  cases queue : pipeline.primary.queue with
  | cons item rest =>
      simp only [queue, Option.some.injEq] at acts
      subst acts
      unfold meet
      dsimp only
      split
      · next past =>
        exact Joins.skips item rest phase queue past
      · next fresh =>
        have unmet : pipeline.account.isPast item.id = false := by
          simpa using fresh
        cases exist : item.exists? with
        | ok live => exact Joins.meets item rest live phase queue unmet exist
        | error error =>
            exact Joins.chokes item rest error phase queue unmet exist
  | nil =>
      simp only [queue] at acts
      split at acts
      · next gone =>
        cases acts
        cases verdict :
            pipeline.primary.status.verdict setup.sweep.policy 0 with
        | ok _ => exact Joins.drains phase queue gone verdict
        | error error => exact Joins.breaks error phase queue gone verdict
      · cases acts

theorem joins_of_seek
    {id : VertexId}
    {live : Bool}
    {fetched : List (Slice × List Entry)}
    {position : Nat}
    (phase : pipeline.phase = .seeking id live fetched position)
    (acts : pipeline.seek setup id live fetched position = some next) :
    pipeline.Joins setup next := by
  unfold seek at acts
  cases found : pipeline.channels[position]? with
  | none =>
      simp only [found, Option.some.injEq] at acts
      subst acts
      cases live with
      | true => exact Joins.completes id fetched position phase found
      | false => exact Joins.deletes id fetched position phase found
  | some channel =>
      simp only [found] at acts
      cases glance : channel.glance setup.sweep.policy id with
      | waiting => simp [glance] at acts
      | moved moved dropped =>
          simp only [glance, Option.some.injEq] at acts
          subst acts
          exact Joins.moves id live fetched position channel moved dropped
            phase found glance
      | passed passed entries =>
          simp only [glance, Option.some.injEq] at acts
          subst acts
          exact Joins.passes id live fetched position channel passed entries
            phase found glance
      | broken error =>
          simp only [glance, Option.some.injEq] at acts
          subst acts
          exact Joins.fails id live fetched position channel error phase found
            glance

theorem joins_of_submit
    {view : View}
    (phase : pipeline.phase = .submitting view) :
    pipeline.Joins setup (pipeline.submit setup view) := by
  unfold submit
  dsimp only
  split
  · next room => exact Joins.queues view phase room
  · next full => exact Joins.inlines view phase (Nat.le_of_not_lt full)

theorem joins_of_join
    (acts : pipeline.join setup = some next) :
    pipeline.Joins setup next := by
  unfold join at acts
  cases phase : pipeline.phase with
  | probing =>
      simp only [phase] at acts
      exact joins_of_probe phase acts
  | seeking id live fetched position =>
      simp only [phase] at acts
      exact joins_of_seek phase acts
  | submitting view =>
      simp only [phase, Option.some.injEq] at acts
      rw [← acts]
      exact joins_of_submit phase
  | inlining =>
      simp only [phase] at acts
      split at acts
      · cases acts
      · next idle =>
        cases acts
        exact Joins.resumes phase (by simpa using idle)
  | draining =>
      simp only [phase] at acts
      split at acts
      · next spent =>
        cases acts
        rw [Bool.and_eq_true, List.isEmpty_iff, List.isEmpty_iff] at spent
        exact Joins.stops phase spent.1 spent.2
      · cases acts
  | failing error =>
      simp only [phase, Option.some.injEq] at acts
      subst acts
      exact Joins.abandons error phase
  | abandoning error =>
      simp only [phase] at acts
      split at acts
      · next stopped =>
        cases acts
        exact Joins.ends error phase stopped
      · cases acts
  | stopping => simp [phase] at acts
  | ended result => simp [phase] at acts

end Join

/-- All that releasing the read context can come to. -/
inductive Releases
    [Mergeable σ]
    (setup : Setup σ ρ)
    (pipeline : Pipeline σ ρ)
    (order : List VertexId) : Pipeline σ ρ -> Prop
  | refused
      (fault : StorageError)
      (phase : pipeline.phase = .stopping)
      (fails : setup.releaseFault = some fault) :
      Releases setup pipeline order { pipeline with
        events := pipeline.events ++ [.released]
        phase := .failing (.storage fault) }
  | merged
      (phase : pipeline.phase = .stopping)
      (released : setup.releaseFault = none)
      (perm : order.Perm pipeline.effects.store.siblings)
      (partitioned : pipeline.account.tally.sawPartitioned) :
      Releases setup pipeline order { pipeline with
        events := pipeline.events ++ [.released]
        effects := { pipeline.effects with
          store := (pipeline.effects.store.mergeInOrder order).2 }
        phase := .ended
          (if (pipeline.effects.store.mergeInOrder order).1.isSome then
            .ok pipeline.tally
          else .error .taskLost) }
  | plain
      (phase : pipeline.phase = .stopping)
      (released : setup.releaseFault = none)
      (whole : pipeline.account.tally.sawPartitioned = false) :
      Releases setup pipeline order { pipeline with
        events := pipeline.events ++ [.released]
        phase := .ended (.ok pipeline.tally) }

theorem releases_of_release
    [Mergeable σ]
    {setup : Setup σ ρ}
    {pipeline next : Pipeline σ ρ}
    {order : List VertexId}
    (acts : pipeline.release setup order = some next) :
    pipeline.Releases setup order next := by
  unfold release at acts
  split at acts
  · next phase =>
    split at acts
    · next ready =>
      rw [Bool.and_eq_true, List.isPerm_iff] at ready
      cases fault : setup.releaseFault with
      | some error =>
          simp only [fault, Option.some.injEq] at acts
          subst acts
          exact Releases.refused error phase fault
      | none =>
          simp only [fault, Option.some.injEq] at acts
          subst acts
          unfold conclude
          dsimp only
          split
          · next partitioned =>
            exact Releases.merged phase fault ready.2 partitioned
          · next whole =>
            exact Releases.plain phase fault (by simpa using whole)
    · cases acts
  · cases acts

/-- All that a step of a run can be. -/
inductive Works
    (pipeline : Pipeline σ ρ)
    (position : Nat) : Pipeline σ ρ -> Prop
  | writes
      (run : Running σ ρ)
      (state : σ)
      (due : List σ)
      (found : pipeline.running[position]? = some run)
      (next : run.due = state :: due) :
      Works pipeline position { pipeline with
        running := pipeline.running.set position { run with due := due }
        effects := pipeline.effects.write run.id state }
  | finishes
      (run : Running σ ρ)
      (found : pipeline.running[position]? = some run)
      (spent : run.due = []) :
      Works pipeline position { pipeline with
        running := pipeline.running.eraseIdx position
        effects := pipeline.effects.finish run.visited }

theorem works_of_work
    {pipeline next : Pipeline σ ρ}
    {position : Nat}
    (acts : pipeline.work position = some next) :
    pipeline.Works position next := by
  unfold work at acts
  cases found : pipeline.running[position]? with
  | none => simp [found] at acts
  | some run =>
      simp only [found] at acts
      cases due : run.due with
      | nil =>
          simp only [due, Option.some.injEq] at acts
          rw [← acts]
          exact Works.finishes run found due
      | cons state rest =>
          simp only [due, Option.some.injEq] at acts
          rw [← acts]
          exact Works.writes run state rest found due

/-- What picking a vertex is. -/
theorem pick_eq_some
    {setup : Setup σ ρ}
    {pipeline next : Pipeline σ ρ}
    (acts : pipeline.pick setup = some next) :
    ∃ view rest, pipeline.queue = view :: rest ∧
      next = launch setup { pipeline with queue := rest } view false := by
  unfold pick at acts
  cases queue : pipeline.queue with
  | nil => simp [queue] at acts
  | cons view rest =>
      simp only [queue] at acts
      split at acts
      · cases acts
        exact ⟨view, rest, rfl, rfl⟩
      · cases acts

/-- What breaking off a run is. -/
theorem breakOff_eq_some
    {pipeline next : Pipeline σ ρ}
    {position : Nat}
    (acts : pipeline.breakOff position = some next) :
    (∃ error, pipeline.phase = .abandoning error ∨
      pipeline.phase = .ended (.error error)) ∧
    position < pipeline.running.length ∧
    next = { pipeline with running := pipeline.running.eraseIdx position } := by
  unfold breakOff at acts
  split at acts
  case h_1 error phase =>
    split at acts
    · next within =>
      cases acts
      exact ⟨⟨error, Or.inl phase⟩, within, rfl⟩
    · cases acts
  case h_2 error phase =>
    split at acts
    · next within =>
      cases acts
      exact ⟨⟨error, Or.inr phase⟩, within, rfl⟩
    · cases acts
  case h_3 => cases acts

end Pipeline
end GraphSweep
