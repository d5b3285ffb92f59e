import GraphSweep.Proofs.Pipeline.Steps
import Mathlib.Algebra.Order.BigOperators.Group.List
import Mathlib.Algebra.Order.Ring.Nat

/-!
# Jobs under way come to an end

Every action takes some of the work that is left, so nothing goes on for ever. And
as long as a job has not ended, something can happen in it without a wait running
out: a reader waits for room only while the join can take items, the join waits
only for a reader, a worker or a run that can go on, and readers that were told to
stop do.
-/

namespace GraphSweep

/-! ## Work that is left -/

/-- Steps that a phase of a reader is from the end, when handling an item takes
some steps of the join. -/
def ReaderPhase.load (cost : Nat) : ReaderPhase -> Nat
  | .looking => 5
  | .fetching => 4
  | .offering _ => cost + 6
  | .closing _ => 3
  | .reporting _ => 2
  | .leaving => 1
  | .gone => 0

/-- Steps that a phase of the join is from the end of a vertex or of the job, with
a number of channels to look at. -/
def JoinPhase.load (channels : Nat) : JoinPhase -> Nat
  | .seeking _ _ _ position => 9 + (channels - position)
  | .submitting _ => 8
  | .inlining => 6
  | .probing => 5
  | .draining => 4
  | .stopping => 3
  | .failing _ => 2
  | .abandoning _ => 1
  | .ended _ => 0

namespace JoinPhase

/-- Whether the join waits for the readers to stop. -/
def awaitsReaders : JoinPhase -> Bool
  | stopping | abandoning _ => true
  | probing | seeking _ _ _ _ | submitting _ | inlining | draining | failing _
  | ended _ => false

end JoinPhase

namespace Reader

/-- Work that is left for a reader and for the join with its items. -/
def load (cost : Nat) (reader : Reader) : Nat :=
  (cost + 3) * reader.pending.length + cost * reader.queue.length +
    reader.phase.load cost

/-- Taking an item takes the work that it makes. -/
theorem load_of_queue
    {reader : Reader}
    {item : Item}
    {rest : List Item}
    (cost : Nat)
    (queue : reader.queue = item :: rest) :
    reader.load cost = load cost { reader with queue := rest } + cost := by
  rw [load, load, queue, List.length_cons, Nat.mul_succ]
  dsimp only
  omega

/-- A step of a reader takes some work. -/
theorem load_advance
    {capacity : Nat}
    {reader next : Reader}
    (cost : Nat)
    (advances : reader.advance capacity = some next) :
    next.load cost < reader.load cost := by
  cases advances_of_advance advances with
  | looks phase | heeds phase | forgets item phase | closes status phase
  | reports status phase | leaves phase =>
      simp only [load, phase, ReaderPhase.load]
      omega
  | ends phase spent =>
      simp only [load, phase, spent, ReaderPhase.load]
      omega
  | fails read rest error phase =>
      simp only [load, phase, ReaderPhase.load, List.length_nil]
      omega
  | passes read rest phase pending | finds read rest item phase pending =>
      have more : (cost + 3) * (read :: rest).length =
          (cost + 3) * rest.length + (cost + 3) := Nat.mul_succ _ _
      simp only [load, phase, pending, more, ReaderPhase.load]
      omega
  | puts item phase =>
      simp only [load, phase, ReaderPhase.load, List.length_append,
        List.length_singleton, Nat.mul_add, Nat.mul_one]
      omega

end Reader

namespace Channel

/-- Work that is left for a channel: each of its items is taken and then dropped or
claimed, and its end is seen. -/
def load (channel : Channel) : Nat :=
  channel.reader.load 2 + channel.slot.toList.length +
    (if channel.finished then 0 else 1)

/-- Looking at a channel in vain takes some of its work. -/
theorem load_of_moved
    {policy : FailurePolicy}
    {channel next : Channel}
    {id : VertexId}
    {dropped : Nat}
    (moved : channel.glance policy id = .moved next dropped) :
    next.load < channel.load := by
  have glances := channel.glances policy id
  rw [moved] at glances
  cases glances with
  | drops item holds earlier =>
      simp only [load, holds, Option.toList_some, Option.toList_none,
        List.length_singleton, List.length_nil]
      omega
  | takes item rest empty going queue =>
      have taken := Reader.load_of_queue 2 queue
      simp only [load, empty, taken, Option.toList_some, Option.toList_none,
        List.length_singleton, List.length_nil]
      omega
  | finishes empty going drained gone well =>
      simp [load, going]

/-- Passing a channel makes no work. -/
theorem load_of_passed
    {policy : FailurePolicy}
    {channel next : Channel}
    {id : VertexId}
    {entries : Option (List Entry)}
    (passed : channel.glance policy id = .passed next entries) :
    next.load ≤ channel.load := by
  have glances := channel.glances policy id
  rw [passed] at glances
  cases glances with
  | claims item holds same =>
      simp only [load, holds, Option.toList_some, Option.toList_none,
        List.length_singleton, List.length_nil]
      omega
  | keeps | lacks => exact Nat.le_refl _

end Channel

/-- A sum changes as the summand that is exchanged. -/
theorem sum_map_set
    {α : Type}
    (weight : α -> Nat)
    {entries : List α}
    {position : Nat}
    {entry : α}
    (other : α)
    (found : entries[position]? = some entry) :
    ((entries.set position other).map weight).sum + weight entry =
      (entries.map weight).sum + weight other := by
  obtain ⟨within, rfl⟩ := List.getElem?_eq_some_iff.1 found
  have after := ((List.set_perm_cons_eraseIdx within other).map weight).sum_eq
  have before := ((List.getElem_cons_eraseIdx_perm within).map weight).sum_eq
  rw [List.map_cons, List.sum_cons] at after before
  omega

namespace Pipeline

variable {σ ρ : Type}

/-- Work that is left for the readers, the join and the workers, the writes of
runs under way apart. -/
def load (pipeline : Pipeline σ ρ) : Nat :=
  pipeline.primary.load (pipeline.channels.length + 5) +
    (pipeline.channels.map Channel.load).sum +
    pipeline.phase.load pipeline.channels.length +
    2 * pipeline.queue.length + pipeline.running.length

/-- Number of writes that the runs under way are still to make. -/
def writesDue (pipeline : Pipeline σ ρ) : Nat :=
  (pipeline.running.map fun run => run.due.length).sum

section Steps

variable {setup : Setup σ ρ} {pipeline next : Pipeline σ ρ}

theorem load_reads (reads : pipeline.Reads setup next) :
    next.load < pipeline.load := by
  cases reads with
  | primary reader events advances =>
      have less := Reader.load_advance (pipeline.channels.length + 5) advances
      simp only [load]
      omega
  | channel position channel reader events found advances =>
      have less := Reader.load_advance 2 advances
      have sums := sum_map_set Channel.load { channel with reader := reader }
        found
      have lessHere : Channel.load { channel with reader := reader } <
          channel.load := by
        simp only [Channel.load]
        omega
      simp only [load, List.length_set]
      omega

theorem load_joins (joins : pipeline.Joins setup next) :
    next.load < pipeline.load := by
  cases joins with
  | skips item rest phase queue past =>
      have taken := Reader.load_of_queue (pipeline.channels.length + 5) queue
      simp only [load, taken]
      omega
  | meets item rest live phase queue fresh exist =>
      have taken := Reader.load_of_queue (pipeline.channels.length + 5) queue
      simp only [load, taken, phase, JoinPhase.load]
      omega
  | chokes item rest error phase queue fresh exist =>
      have taken := Reader.load_of_queue (pipeline.channels.length + 5) queue
      simp only [load, taken, phase, JoinPhase.load]
      omega
  | moves id live fetched position channel moved dropped phase found glance =>
      have less := Channel.load_of_moved glance
      have sums := sum_map_set Channel.load moved found
      simp only [load, List.length_set]
      omega
  | passes id live fetched position channel passed entries phase found glance =>
      have less := Channel.load_of_passed glance
      have sums := sum_map_set Channel.load passed found
      have within := (List.getElem?_eq_some_iff.1 found).1
      simp only [load, List.length_set, phase, JoinPhase.load]
      omega
  | stops phase | abandons error phase =>
      have sums : (pipeline.channels.map Channel.cancel).map Channel.load =
          pipeline.channels.map Channel.load := by
        rw [List.map_map]
        rfl
      have primary : pipeline.primary.cancel.load
          (pipeline.channels.length + 5) =
          pipeline.primary.load (pipeline.channels.length + 5) := rfl
      simp only [load, cancelReaders, sums, primary, List.length_map, phase,
        JoinPhase.load, List.length_nil]
      omega
  | queues view phase room =>
      simp only [load, phase, JoinPhase.load, List.length_append,
        List.length_singleton]
      omega
  | inlines view phase full =>
      simp only [load, launch, phase, JoinPhase.load, List.length_append,
        List.length_singleton]
      omega
  | drains phase | breaks error phase
  | fails id live fetched position channel error phase
  | completes id fetched position phase | deletes id fetched position phase
  | resumes phase | ends error phase =>
      simp only [load, phase, JoinPhase.load]
      omega

theorem load_releases
    [Mergeable σ]
    {order : List VertexId}
    (releases : pipeline.Releases setup order next) :
    next.load < pipeline.load := by
  cases releases with
  | refused fault phase fails =>
      simp only [load, phase, JoinPhase.load]
      omega
  | merged phase released perm partitioned | plain phase released whole =>
      simp only [load, phase, JoinPhase.load]
      omega

theorem load_pick (acts : pipeline.pick setup = some next) :
    next.load < pipeline.load := by
  obtain ⟨view, rest, queue, rfl⟩ := pick_eq_some acts
  simp only [load, launch, queue, List.length_append, List.length_cons,
    List.length_nil]
  omega

/-- A run writes a state or is over. -/
theorem load_works
    {position : Nat}
    (works : pipeline.Works position next) :
    next.load < pipeline.load ∨
      (next.load = pipeline.load ∧ next.writesDue < pipeline.writesDue) := by
  cases works with
  | writes run state due found next =>
      right
      have sums := sum_map_set (fun run : Running σ ρ => run.due.length)
        { run with due := due } found
      simp only [next, List.length_cons] at sums
      refine ⟨?_, ?_⟩
      · simp only [load, List.length_set]
      · simp only [writesDue]
        omega
  | finishes run found spent =>
      left
      have within := (List.getElem?_eq_some_iff.1 found).1
      simp only [load, List.length_eraseIdx, if_pos within]
      omega

theorem load_breakOff
    {position : Nat}
    (acts : pipeline.breakOff position = some next) :
    next.load < pipeline.load := by
  obtain ⟨-, within, rfl⟩ := breakOff_eq_some acts
  simp only [load, List.length_eraseIdx, if_pos within]
  omega

/-- A wait that runs out makes the join fail, which brings it nearer to the end. -/
theorem expire_eq_some
    (acts : pipeline.expire setup = some next) :
    ∃ phase, next = { pipeline with phase := phase } ∧
      (∃ error, phase = .failing error ∨ phase = .ended (.error error)) ∧
      ∀ channels, phase.load channels < pipeline.phase.load channels := by
  unfold expire at acts
  cases phase : pipeline.phase with
  | probing =>
      simp only [phase] at acts
      split at acts
      · cases acts
        exact ⟨_, rfl, ⟨_, Or.inl rfl⟩,
          fun channels => by simp [JoinPhase.load]⟩
      · cases acts
  | seeking id live fetched position =>
      simp only [phase] at acts
      split at acts
      · cases acts
      · split at acts
        · cases acts
          exact ⟨_, rfl, ⟨_, Or.inl rfl⟩,
            fun channels => by simp only [JoinPhase.load]; omega⟩
        · cases acts
  | draining =>
      simp only [phase] at acts
      split at acts
      · cases acts
      · cases acts
        exact ⟨_, rfl, ⟨_, Or.inl rfl⟩,
          fun channels => by simp [JoinPhase.load]⟩
  | stopping =>
      simp only [phase] at acts
      split at acts
      · cases acts
      · cases acts
        exact ⟨_, rfl, ⟨_, Or.inl rfl⟩,
          fun channels => by simp [JoinPhase.load]⟩
  | abandoning error =>
      simp only [phase] at acts
      split at acts
      · cases acts
      · cases acts
        exact ⟨_, rfl, ⟨_, Or.inr rfl⟩,
          fun channels => by simp [JoinPhase.load]⟩
  | submitting | inlining | failing | ended => simp [phase] at acts

/-- Every action takes some of the work that is left. -/
theorem load_act
    [Mergeable σ]
    {action : Action}
    (acts : pipeline.act setup action = some next) :
    next.load < pipeline.load ∨
      (next.load = pipeline.load ∧ next.writesDue < pipeline.writesDue) := by
  cases action with
  | read stream => exact Or.inl (load_reads (reads_of_read acts))
  | join => exact Or.inl (load_joins (joins_of_join acts))
  | release order => exact Or.inl (load_releases (releases_of_release acts))
  | pick => exact Or.inl (load_pick acts)
  | work position => exact load_works (works_of_work acts)
  | breakOff position => exact Or.inl (load_breakOff acts)
  | expire =>
      obtain ⟨phase, rfl, -, less⟩ := expire_eq_some acts
      have here := less pipeline.channels.length
      left
      simp only [load]
      omega

end Steps

/-! ## Nothing goes on for ever -/

section Runs

variable [Mergeable σ] {setup : Setup σ ρ} {pipeline next : Pipeline σ ρ}

/-- Something that happens in a job takes it from one state to another. -/
def Leads (setup : Setup σ ρ) (next pipeline : Pipeline σ ρ) : Prop :=
  ∃ action, pipeline.act setup action = some next

/-- There is no end to nothing: actions cannot follow one another for ever. -/
theorem wellFounded_leads (setup : Setup σ ρ) :
    WellFounded (Leads (σ := σ) (ρ := ρ) setup) := by
  have lower := InvImage.wf
    (fun pipeline : Pipeline σ ρ => (pipeline.load, pipeline.writesDue))
    (Prod.lex Nat.lt_wfRel Nat.lt_wfRel).wf
  apply Subrelation.wf _ lower
  intro next pipeline leads
  obtain ⟨action, acts⟩ := leads
  rcases load_act acts with less | ⟨same, less⟩
  · exact Prod.Lex.left _ _ less
  · change Prod.Lex _ _ (next.load, next.writesDue)
      (pipeline.load, pipeline.writesDue)
    rw [same]
    exact Prod.Lex.right _ less

/-- There is no schedule that can be followed for ever. -/
theorem exists_follow_eq_none
    (setup : Setup σ ρ)
    (pipeline : Pipeline σ ρ)
    (schedule : Nat -> Action) :
    ∃ count,
      pipeline.follow setup ((List.range count).map schedule) = none := by
  induction pipeline using (wellFounded_leads setup).induction
    generalizing schedule with
  | h pipeline hypothesis =>
      have head (count : Nat) :
          (List.range (count + 1)).map schedule =
            schedule 0 :: (List.range count).map fun index =>
              schedule (index + 1) := by
        rw [List.range_succ_eq_map, List.map_cons, List.map_map]
        rfl
      cases acts : pipeline.act setup (schedule 0) with
      | none =>
          refine ⟨1, ?_⟩
          rw [head, follow_cons, acts]
          rfl
      | some next =>
          obtain ⟨count, stuck⟩ := hypothesis next ⟨schedule 0, acts⟩
            fun index => schedule (index + 1)
          refine ⟨count + 1, ?_⟩
          rw [head, follow_cons, acts]
          exact stuck

/-- Where a job can go on until it is done, it can be brought to be done. -/
theorem exists_follow_of_goesOn
    {Holds Done : Pipeline σ ρ -> Prop}
    {Allowed : Action -> Prop}
    (goesOn : ∀ {pipeline : Pipeline σ ρ}, Holds pipeline -> ¬Done pipeline ->
      ∃ action next, Allowed action ∧
        pipeline.act setup action = some next ∧ Holds next)
    (holds : Holds pipeline) :
    ∃ actions last, (∀ action ∈ actions, Allowed action) ∧
      pipeline.follow setup actions = some last ∧ Holds last ∧ Done last := by
  induction pipeline using (wellFounded_leads setup).induction with
  | h pipeline hypothesis =>
      by_cases done : Done pipeline
      · exact ⟨[], pipeline, by simp, rfl, holds, done⟩
      · obtain ⟨action, next, allowed, acts, holdsNext⟩ := goesOn holds done
        obtain ⟨actions, last, allowedAll, follows, ends⟩ :=
          hypothesis next ⟨action, acts⟩ holdsNext
        refine ⟨action :: actions, last, ?_, ?_, ends⟩
        · exact List.forall_mem_cons.2 ⟨allowed, allowedAll⟩
        · rw [follow_cons, acts]
          exact follows

end Runs

/-! ## Something can always happen -/

/-- Readers that the join waits for have been told to stop. -/
def Told (pipeline : Pipeline σ ρ) : Prop :=
  pipeline.phase.awaitsReaders ->
    pipeline.primary.cancelled ∧
      ∀ channel ∈ pipeline.channels, channel.reader.cancelled

section Told

variable {setup : Setup σ ρ} {pipeline next : Pipeline σ ρ}

theorem Told.reads
    (told : pipeline.Told)
    (reads : pipeline.Reads setup next) :
    next.Told := by
  cases reads with
  | primary reader events advances =>
      intro awaits
      obtain ⟨primary, channels⟩ := told awaits
      exact ⟨(Reader.cancelled_advance advances).trans primary, channels⟩
  | channel position channel reader events found advances =>
      intro awaits
      obtain ⟨primary, channels⟩ := told awaits
      refine ⟨primary, ?_⟩
      intro other member
      rcases List.mem_or_eq_of_mem_set member with old | rfl
      · exact channels other old
      · exact (Reader.cancelled_advance advances).trans
          (channels channel (List.mem_of_getElem? found))

/-- The join tells the readers to stop before it waits for them. -/
theorem told_of_joins
    (joins : pipeline.Joins setup next) :
    next.Told := by
  cases joins with
  | stops | abandons =>
      intro _
      refine ⟨rfl, ?_⟩
      intro channel member
      obtain ⟨before, -, rfl⟩ := List.mem_map.1 member
      rfl
  | skips item rest phase
  | moves id live fetched position channel moved dropped phase =>
      intro awaits
      rw [phase] at awaits
      cases awaits
  | meets | chokes | drains | breaks | passes | fails | completes | deletes
  | queues | inlines | resumes | ends =>
      intro awaits
      cases awaits

/-- Whatever happens, readers that the join waits for have been told to stop. -/
theorem Told.act
    [Mergeable σ]
    {action : Action}
    (told : pipeline.Told)
    (acts : pipeline.act setup action = some next) :
    next.Told := by
  cases action with
  | read stream => exact told.reads (reads_of_read acts)
  | join => exact told_of_joins (joins_of_join acts)
  | release order =>
      cases releases_of_release acts with
      | refused | merged | plain =>
          intro awaits
          cases awaits
  | pick =>
      obtain ⟨view, rest, queue, rfl⟩ := pick_eq_some acts
      exact told
  | work position =>
      cases works_of_work acts with
      | writes | finishes => exact told
  | breakOff position =>
      obtain ⟨-, -, rfl⟩ := breakOff_eq_some acts
      exact told
  | expire =>
      obtain ⟨phase, rfl, ⟨error, fails | ends⟩, -⟩ := expire_eq_some acts
      · intro awaits
        rw [fails] at awaits
        cases awaits
      · intro awaits
        rw [ends] at awaits
        cases awaits

theorem Told.follow
    [Mergeable σ]
    {actions : List Action}
    (told : pipeline.Told)
    (follows : pipeline.follow setup actions = some next) :
    next.Told := by
  induction actions generalizing pipeline with
  | nil =>
      cases follows
      exact told
  | cons action actions hypothesis =>
      rw [follow_cons] at follows
      obtain ⟨middle, acts, follows⟩ := Option.bind_eq_some_iff.1 follows
      exact hypothesis (told.act acts) follows

end Told

section Stuck

variable [Mergeable σ] {setup : Setup σ ρ} {pipeline : Pipeline σ ρ}

/-- Something can happen without a wait running out and without the read context being
released. -/
def CanGoOn (setup : Setup σ ρ) (pipeline : Pipeline σ ρ) : Prop :=
  ∃ action, action.isQuiet ∧ (pipeline.act setup action).isSome

/-- Nothing is left to do for a job but to release its read context. -/
def IsReady (pipeline : Pipeline σ ρ) : Prop :=
  pipeline.phase = .stopping ∧ pipeline.stopped = true

/-- The join goes on where it does not wait. -/
theorem canGoOn_of_join (joins : (pipeline.join setup).isSome) :
    pipeline.CanGoOn setup :=
  ⟨.join, rfl, joins⟩

/-- A reader that has something to do can do it. -/
theorem canGoOn_of_primary
    (goes : pipeline.primary.advance setup.capacity ≠ none) :
    pipeline.CanGoOn setup := by
  refine ⟨.read 0, rfl, ?_⟩
  rw [act, read, Option.isSome_map]
  exact Option.isSome_iff_ne_none.2 goes

theorem canGoOn_of_channel
    {position : Nat}
    {channel : Channel}
    (found : pipeline.channels[position]? = some channel)
    (goes : channel.reader.advance setup.capacity ≠ none) :
    pipeline.CanGoOn setup := by
  refine ⟨.read (position + 1), rfl, ?_⟩
  simp only [act, read, found, Option.isSome_map]
  exact Option.isSome_iff_ne_none.2 goes

/-- A run under way can go on. -/
theorem canGoOn_of_running
    (busy : pipeline.running ≠ []) :
    pipeline.CanGoOn setup := by
  refine ⟨.work 0, rfl, ?_⟩
  cases running : pipeline.running with
  | nil => exact absurd running busy
  | cons run runs =>
      simp only [act, work, running, List.getElem?_cons_zero]
      split <;> rfl

/-- Readers that were told to stop do. -/
theorem canGoOn_of_told
    (told : pipeline.Told)
    (awaits : pipeline.phase.awaitsReaders)
    (reading : pipeline.stopped = false) :
    pipeline.CanGoOn setup := by
  obtain ⟨primary, channels⟩ := told awaits
  by_cases gone : pipeline.primary.isGone
  · simp only [stopped, gone, Bool.true_and] at reading
    rw [List.all_eq_false] at reading
    obtain ⟨channel, member, goes⟩ := reading
    obtain ⟨position, found⟩ := List.getElem?_of_mem member
    apply canGoOn_of_channel found
    intro stuck
    rcases Reader.stuck_of_advance_eq_none stuck with spent | waits
    · exact goes spent
    · rw [channels channel member] at waits
      cases waits.1
  · apply canGoOn_of_primary
    intro stuck
    rcases Reader.stuck_of_advance_eq_none stuck with spent | waits
    · exact gone spent
    · rw [primary] at waits
      cases waits.1

/-- As long as a job has not ended, something can happen in it before it releases its read
context. -/
theorem canGoOn_of_not_ready
    (roomy : 0 < setup.capacity)
    (staffed : 0 < setup.workers)
    (told : pipeline.Told)
    (going : ∀ result, pipeline.phase ≠ .ended result)
    (waits : ¬pipeline.IsReady) :
    pipeline.CanGoOn setup := by
  cases phase : pipeline.phase with
  | ended result => exact absurd phase (going result)
  | failing error =>
      exact canGoOn_of_join (by simp [join, phase])
  | submitting view =>
      exact canGoOn_of_join (by simp [join, phase])
  | probing =>
      cases queue : pipeline.primary.queue with
      | cons item rest =>
          exact canGoOn_of_join (by simp [join, probe, phase, queue])
      | nil =>
          cases gone : pipeline.primary.isGone with
          | true =>
              exact canGoOn_of_join (by simp [join, probe, phase, queue, gone])
          | false =>
              exact canGoOn_of_primary (Reader.advance_ne_none roomy queue gone)
  | seeking id live fetched position =>
      cases found : pipeline.channels[position]? with
      | none =>
          exact canGoOn_of_join (by simp [join, seek, phase, found])
      | some channel =>
          cases glance : channel.glance setup.sweep.policy id with
          | waiting =>
              have glances := channel.glances setup.sweep.policy id
              rw [glance] at glances
              cases glances with
              | waits empty going drained reading =>
                  exact canGoOn_of_channel found
                    (Reader.advance_ne_none roomy drained reading)
          | moved | passed | broken =>
              exact canGoOn_of_join
                (by simp [join, seek, phase, found, glance])
  | inlining =>
      by_cases busy : pipeline.running = []
      · exact canGoOn_of_join (by simp [join, phase, busy])
      · exact canGoOn_of_running busy
  | draining =>
      by_cases busy : pipeline.running = []
      · cases queue : pipeline.queue with
        | nil =>
            exact canGoOn_of_join (by simp [join, phase, busy, queue])
        | cons view rest =>
            refine ⟨.pick, rfl, ?_⟩
            simp [act, pick, queue, busy, staffed]
      · exact canGoOn_of_running busy
  | stopping =>
      cases stopped : pipeline.stopped with
      | false => exact canGoOn_of_told told (by rw [phase]; rfl) stopped
      | true => exact absurd ⟨phase, stopped⟩ waits
  | abandoning error =>
      cases stopped : pipeline.stopped with
      | false => exact canGoOn_of_told told (by rw [phase]; rfl) stopped
      | true =>
          exact canGoOn_of_join (by simp [join, phase, stopped])

/-- A job that has nothing left to do can release its read context, whatever the order in
which its siblings are merged. -/
theorem IsReady.release
    (ready : pipeline.IsReady)
    (setup : Setup σ ρ)
    {order : List VertexId}
    (every : order.Perm pipeline.effects.store.siblings) :
    (pipeline.act setup (.release order)).isSome := by
  simp only [act, Pipeline.release, ready.1, ready.2, List.isPerm_iff.2 every,
    Bool.and_self, if_true]
  split <;> rfl

/-- Whatever has happened in a job, it can be brought to its end without a wait
running out. -/
theorem exists_follow_ended
    (roomy : 0 < setup.capacity)
    (staffed : 0 < setup.workers)
    (told : pipeline.Told) :
    ∃ actions next result, .expire ∉ actions ∧
      pipeline.follow setup actions = some next ∧
      next.phase = .ended result := by
  have goesOn {pipeline : Pipeline σ ρ}
      (told : pipeline.Told)
      (going : ¬∃ result, pipeline.phase = .ended result) :
      ∃ action next, action ≠ .expire ∧
        pipeline.act setup action = some next ∧ next.Told := by
    have goes : ∃ action, action ≠ .expire ∧
        (pipeline.act setup action).isSome := by
      by_cases ready : pipeline.IsReady
      · exact ⟨.release pipeline.effects.store.siblings, by simp,
          ready.release setup (List.Perm.refl _)⟩
      · obtain ⟨action, quiet, goes⟩ := canGoOn_of_not_ready roomy staffed told
          (fun result ended => going ⟨result, ended⟩) ready
        refine ⟨action, ?_, goes⟩
        rintro rfl
        cases quiet
    obtain ⟨action, punctual, goes⟩ := goes
    obtain ⟨next, acts⟩ := Option.isSome_iff_exists.1 goes
    exact ⟨action, next, punctual, acts, told.act acts⟩
  obtain ⟨actions, last, punctual, follows, -, result, ended⟩ :=
    exists_follow_of_goesOn goesOn told
  exact ⟨actions, last, result, fun member => punctual _ member rfl, follows,
    ended⟩

end Stuck

end Pipeline
end GraphSweep
