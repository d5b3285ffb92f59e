import GraphSweep.Proofs.Job.Opening
import GraphSweep.Proofs.Join.Errors
import GraphSweep.Proofs.Join.Submission
import Mathlib.Algebra.Order.BigOperators.Group.List
import Mathlib.Algebra.Order.Ring.Nat

/-!
# Jobs that are on time

A job waits for streams, for its workers and for its readers, and no wait lasts longer
than its settings allow. A job is on time when none of its waits runs out on its clock;
then it comes to what its sequential run comes to. It is on time if the pauses of its
readers and the runs of its program take no longer, all together, than a single wait may
last: until then nothing is late.
-/

namespace GraphSweep

/-- The largest of some numbers is bounded where all of them are. -/
theorem foldl_max_le
    {α : Type}
    {value : α -> Nat}
    {entries : List α}
    {first bound : Nat}
    (least : first ≤ bound)
    (bounded : ∀ entry ∈ entries, value entry ≤ bound) :
    entries.foldl (fun latest entry => max latest (value entry)) first ≤
      bound := by
  induction entries generalizing first with
  | nil => exact least
  | cons entry entries hypothesis =>
      have here := bounded entry List.mem_cons_self
      exact hypothesis (Nat.max_le.2 ⟨least, here⟩) fun other member =>
        bounded other (List.mem_cons_of_mem entry member)

/-- What is kept of some entries adds up to no more than what all of them count. -/
theorem sum_filterMap_le
    {α β : Type}
    {keep : α -> Option β}
    {kept : β -> Nat}
    {full : α -> Nat}
    (bounded : ∀ entry found, keep entry = some found -> kept found ≤ full entry)
    (entries : List α) :
    ((entries.filterMap keep).map kept).sum ≤ (entries.map full).sum := by
  induction entries with
  | nil => exact Nat.le_refl 0
  | cons entry entries hypothesis =>
      rw [List.map_cons, List.sum_cons]
      cases keeps : keep entry with
      | none =>
          rw [List.filterMap_cons_none keeps]
          exact Nat.le_add_left_of_le hypothesis
      | some found =>
          rw [List.filterMap_cons_some keeps, List.map_cons, List.sum_cons]
          exact Nat.add_le_add (bounded entry found keeps) hypothesis

/-- For how many milliseconds the reader of a stream may pause. -/
def KeyStream.pauseMillis (source : KeyStream) : Nat :=
  (source.stall.map Stall.millis).getD 0

/-- For how many milliseconds some runs sleep, all together. -/
def Visited.totalMillis {σ ρ : Type} (visited : List (Visited σ ρ)) : Nat :=
  (visited.map fun run => run.visit.millis).sum

/-! ## What a timeline adds up to -/

/-- For how many milliseconds a pause counts by now. -/
def Pause.spent (pause : Pause) : Nat :=
  if pause.since.isSome then pause.millis else 0

theorem Pause.spent_le (pause : Pause) : pause.spent ≤ pause.millis := by
  unfold spent
  split <;> omega

/-- The pause of a stream lasts as long as the stream says, and a reader that falls asleep
at once does so at the start. -/
theorem Pause.of_ofStream?
    {capacity stream : Nat}
    {source : KeyStream}
    {pause : Pause}
    (found : Pause.ofStream? capacity stream source = some pause) :
    pause.millis = source.pauseMillis ∧ pause.wakes ≤ pause.spent := by
  unfold ofStream? at found
  cases stalls : source.stall with
  | none =>
      rw [stalls] at found
      cases found
  | some stall =>
      rw [stalls] at found
      dsimp only at found
      split at found
      · cases found
        refine ⟨by rw [KeyStream.pauseMillis, stalls]; rfl, ?_⟩
        unfold wakes spent
        split <;> simp_all
      · cases found

namespace Timeline

variable
  {σ ρ : Type}
  {timeline : Timeline σ ρ}

/-- How long the pauses that have begun and the runs made so far take, all
together. -/
def spent (timeline : Timeline σ ρ) : Nat :=
  (timeline.pauses.map Pause.spent).sum +
    Visited.totalMillis timeline.submitted

/-- How long all pauses and the runs made so far take, all together. -/
def weight (timeline : Timeline σ ρ) : Nat :=
  (timeline.pauses.map Pause.millis).sum +
    Visited.totalMillis timeline.submitted

theorem spent_le_weight (timeline : Timeline σ ρ) :
    timeline.spent ≤ timeline.weight :=
  Nat.add_le_add_right
    (List.sum_le_sum fun pause _ => pause.spent_le) _

/-- Nothing is later than what has been spent: neither the clock, nor the end of a run,
nor that of a pause. -/
structure Paced (timeline : Timeline σ ρ) : Prop where
  clock : timeline.clock ≤ timeline.spent
  runs : ∀ run ∈ timeline.runs, run.finish ≤ timeline.spent
  pauses : ∀ pause ∈ timeline.pauses, pause.wakes ≤ timeline.spent

/-- The turn of a run comes when another one is over, or at once. -/
theorem Paced.turn (paced : timeline.Paced) (pace : Pace) :
    timeline.turn pace ≤ timeline.spent := by
  unfold Timeline.turn
  dsimp only
  rw [List.getD_getElem?]
  split
  · next within =>
    have member := List.mem_mergeSort.1 (List.getElem_mem within)
    obtain ⟨run, pending, same⟩ := List.mem_map.1 member
    rw [← same]
    exact paced.runs run (List.mem_filter.1 pending).1
  · exact paced.clock

theorem totalMillis_submitted_append
    (before : List (Run σ ρ))
    (visited : Visited σ ρ)
    (start : Nat)
    (inlined : Bool) :
    Visited.totalMillis ((before ++ [(⟨visited, start, inlined⟩ : Run σ ρ)]).map
        Run.visited) =
      Visited.totalMillis (before.map Run.visited) + visited.visit.millis := by
  simp [Visited.totalMillis]

theorem spent_submit
    (pace : Pace)
    (timeline : Timeline σ ρ)
    (visited : Visited σ ρ) :
    spent (timeline.submit pace visited) =
      timeline.spent + visited.visit.millis := by
  unfold spent submit submitted
  split <;> dsimp only <;> rw [totalMillis_submitted_append, Nat.add_assoc]

theorem weight_submit
    (pace : Pace)
    (timeline : Timeline σ ρ)
    (visited : Visited σ ρ) :
    weight (timeline.submit pace visited) =
      timeline.weight + visited.visit.millis := by
  unfold weight submit submitted
  split <;> dsimp only <;> rw [totalMillis_submitted_append, Nat.add_assoc]

/-- A run that begins now or in its turn takes no longer than it adds. -/
theorem Paced.submit
    (paced : timeline.Paced)
    (pace : Pace)
    (visited : Visited σ ρ) :
    Paced (timeline.submit pace visited) := by
  have turn := paced.turn pace
  have clock := paced.clock
  have total := spent_submit pace timeline visited
  have finished (start : Nat) (inlined : Bool)
      (begins : start ≤ timeline.spent) :
      ∀ run ∈ timeline.runs ++ [⟨visited, start, inlined⟩],
        run.finish ≤ timeline.spent + visited.visit.millis := by
    intro run member
    rcases List.mem_append.1 member with before | here
    · exact Nat.le_add_right_of_le (paced.runs run before)
    · rw [List.mem_singleton.1 here]
      exact Nat.add_le_add_right begins _
  refine ⟨?_, ?_, ?_⟩ <;> rw [total] <;> unfold Timeline.submit <;> split
  · exact Nat.le_add_right_of_le clock
  · exact Nat.add_le_add_right clock _
  · exact finished _ false turn
  · exact finished _ true clock
  · exact fun pause member => Nat.le_add_right_of_le (paced.pauses pause member)
  · exact fun pause member => Nat.le_add_right_of_le (paced.pauses pause member)

end Timeline

namespace Pause

variable (pause : Pause) (capacity now untaken : Nat)

theorem millis_taken : (pause.taken capacity now untaken).millis =
    pause.millis := by
  unfold taken
  split <;> rfl

theorem spent_le_spent_taken :
    pause.spent ≤ (pause.taken capacity now untaken).spent := by
  unfold taken
  split
  · unfold spent
    cases pause.since <;> simp
  · exact Nat.le_refl _

/-- A reader that falls asleep now sleeps for no longer than it adds. -/
theorem wakes_taken_le :
    (pause.taken capacity now untaken).wakes ≤ pause.wakes ∨
      (pause.taken capacity now untaken).wakes + pause.spent ≤
        now + (pause.taken capacity now untaken).spent := by
  unfold taken
  split
  · cases since : pause.since with
    | none => exact Or.inr (by simp [wakes, spent, since])
    | some time => exact Or.inl (by simp [wakes, since])
  · exact Or.inl (Nat.le_refl _)

end Pause

/-- Where entries grow and one of them does so by some amount, their sum does so by at
least as much. -/
theorem sum_map_add_le_of_mem
    {α : Type}
    {before after : α -> Nat}
    {entries : List α}
    (grows : ∀ entry ∈ entries, before entry ≤ after entry)
    {entry : α}
    (member : entry ∈ entries) :
    (entries.map before).sum + after entry ≤
      (entries.map after).sum + before entry := by
  induction entries with
  | nil => cases member
  | cons first rest hypothesis =>
      rw [List.map_cons, List.map_cons, List.sum_cons, List.sum_cons]
      have least := grows first List.mem_cons_self
      have others : ∀ other ∈ rest, before other ≤ after other :=
        fun other among => grows other (List.mem_cons_of_mem first among)
      rcases List.mem_cons.1 member with rfl | later
      · have sums := List.sum_le_sum others
        omega
      · have more := hypothesis others later
        omega

namespace Timeline

variable
  {σ ρ : Type}
  {timeline : Timeline σ ρ}

theorem weight_take
    (pace : Pace)
    (timeline : Timeline σ ρ)
    (stream left : Nat) :
    weight (timeline.take pace stream left) = timeline.weight := by
  unfold weight take submitted
  dsimp only
  rw [List.map_map]
  congr 2
  apply List.map_congr_left
  intro pause _
  rw [Function.comp_apply]
  split
  · exact pause.millis_taken _ _ _
  · rfl

/-- Taking items takes no time, though readers may fall asleep over it. -/
theorem Paced.take
    (paced : timeline.Paced)
    (pace : Pace)
    (stream left : Nat) :
    Paced (timeline.take pace stream left) := by
  let change (pause : Pause) : Pause :=
    if pause.stream = stream then
      pause.taken pace.capacity timeline.clock (left - 1)
    else pause
  have grows (pause : Pause) : pause.spent ≤ (change pause).spent := by
    unfold change
    split
    · exact pause.spent_le_spent_taken _ _ _
    · exact Nat.le_refl _
  have total : spent (timeline.take pace stream left) =
      ((timeline.pauses.map fun pause => (change pause).spent).sum) +
        Visited.totalMillis timeline.submitted := by
    unfold spent Timeline.take
    dsimp only
    rw [List.map_map]
    rfl
  have more : timeline.spent ≤ spent (timeline.take pace stream left) := by
    rw [total]
    exact Nat.add_le_add_right (List.sum_le_sum fun pause _ => grows pause) _
  refine ⟨paced.clock.trans more,
    fun run member => (paced.runs run member).trans more, ?_⟩
  intro pause member
  obtain ⟨old, among, rfl⟩ := List.mem_map.1 member
  have wakes : (change old).wakes ≤ old.wakes ∨
      (change old).wakes + old.spent ≤
        timeline.clock + (change old).spent := by
    unfold change
    split
    · exact old.wakes_taken_le _ _ _
    · exact Or.inl (Nat.le_refl _)
  rcases wakes with earlier | begins
  · exact (earlier.trans (paced.pauses old among)).trans more
  · have sums := sum_map_add_le_of_mem (fun pause _ => grows pause) among
    have clock := paced.clock
    rw [total]
    unfold spent at clock
    have bound : (change old).wakes ≤
        (timeline.pauses.map fun pause => (change pause).spent).sum +
          Visited.totalMillis timeline.submitted := by
      omega
    exact bound

/-- What has been waited for has come by the time that has been spent. -/
theorem Paced.delivered
    (paced : timeline.Paced)
    (stream left : Nat) :
    timeline.delivered stream left ≤ timeline.spent :=
  foldl_max_le paced.clock fun pause member =>
    paced.pauses pause (List.mem_filter.1 member).1

/-- All runs are over by the time that has been spent. -/
theorem Paced.finish (paced : timeline.Paced) :
    timeline.finish ≤ timeline.spent :=
  foldl_max_le paced.clock paced.runs

/-- Moves that take no longer, together with all pauses, than a single wait may last are
followed to their end. -/
theorem Paced.follow
    (paced : timeline.Paced)
    (pace : Pace)
    {moves : List (Move σ ρ)}
    (brisk : timeline.weight +
        Visited.totalMillis (moves.filterMap Move.submitted?) ≤
      pace.patience) :
    (timeline.follow pace moves).stalled = none ∧
      Paced (timeline.follow pace moves).timeline ∧
      weight (timeline.follow pace moves).timeline = timeline.weight +
        Visited.totalMillis (moves.filterMap Move.submitted?) := by
  induction moves generalizing timeline with
  | nil => exact ⟨rfl, paced, rfl⟩
  | cons move moves hypothesis =>
      cases move with
      | submit visited =>
          have total : timeline.weight + Visited.totalMillis
              ((Move.submit visited :: moves).filterMap Move.submitted?) =
              weight (timeline.submit pace visited) +
                Visited.totalMillis (moves.filterMap Move.submitted?) := by
            rw [weight_submit, Nat.add_assoc]
            rfl
          rw [total] at brisk ⊢
          exact hypothesis (paced.submit pace visited) brisk
      | reach stream left =>
          have taken := paced.take pace stream left
          have ready := taken.delivered stream left
          have total := weight_take pace timeline stream left
          have spent := spent_le_weight (timeline.take pace stream left)
          have brisk : timeline.weight +
              Visited.totalMillis (moves.filterMap Move.submitted?) ≤
                pace.patience := brisk
          rw [Timeline.follow, if_neg (by omega)]
          have later := @hypothesis
            { timeline.take pace stream left with
              clock := Timeline.delivered (timeline.take pace stream left)
                stream left }
            ⟨ready, taken.runs, taken.pauses⟩
            (by
              rw [← total] at brisk
              exact brisk)
          rw [← total]
          exact later

/-- The workers, and after them the readers, stop in some milliseconds each. -/
structure Settles (timeline : Timeline σ ρ) (grace : Nat) : Prop where
  workers : timeline.finish ≤ timeline.clock + grace
  readers : (Stopped.ofTimeline timeline timeline.finish grace).inTime = true

/-- A timeline that adds up to no more than a single wait may last settles. -/
theorem Paced.settles
    (paced : timeline.Paced)
    {grace : Nat}
    (brisk : timeline.weight ≤ grace) :
    timeline.Settles grace := by
  have spent := spent_le_weight timeline
  have finish := paced.finish
  have awake : timeline.asleep (timeline.finish + grace) = [] := by
    rw [asleep, List.map_eq_nil_iff, List.filter_eq_nil_iff]
    intro pause member
    have wakes := paced.pauses pause member
    rw [decide_eq_true_eq]
    omega
  refine ⟨by omega, ?_⟩
  rw [Stopped.ofTimeline, awake]
  rfl

/-- Readers that have just been started have spent what their first pauses take. -/
theorem paced_start
    (pace : Pace)
    (sources : List KeyStream) :
    Paced (start (σ := σ) (ρ := ρ) pace sources) := by
  refine ⟨Nat.zero_le _, (fun run member => by cases member), ?_⟩
  intro pause member
  obtain ⟨⟨source, stream⟩, -, found⟩ := List.mem_filterMap.1 member
  have fresh := (Pause.of_ofStream? found).2
  refine fresh.trans (Nat.le_add_right_of_le ?_)
  exact List.single_le_sum (fun _ _ => Nat.zero_le _) _
    (List.mem_map_of_mem member)

/-- The pauses of readers take no longer than their streams say. -/
theorem weight_start_le
    (pace : Pace)
    (sources : List KeyStream) :
    weight (start (σ := σ) (ρ := ρ) pace sources) ≤
      (sources.map KeyStream.pauseMillis).sum := by
  have bounded : ∀ (entry : KeyStream × Nat) pause,
      Pause.ofStream? pace.capacity entry.2 entry.1 = some pause ->
        pause.millis ≤ KeyStream.pauseMillis entry.1 :=
    fun _ _ found => Nat.le_of_eq (Pause.of_ofStream? found).1
  have sums := sum_filterMap_le bounded sources.zipIdx
  have plain : sources.zipIdx.map (fun entry => entry.1.pauseMillis) =
      sources.map KeyStream.pauseMillis := by
    conv_rhs => rw [← List.zipIdx_map_fst 0 sources]
    rw [List.map_map]
    rfl
  rw [plain] at sums
  exact sums

end Timeline

/-- A join does not fail with a wait that runs out. -/
theorem Progress.isTimeout_of_run
    {σ ρ : Type}
    {sweep : Sweep σ ρ}
    {progress : Progress σ ρ}
    {ending : FeedEnd}
    {items : List Item}
    {error : JobError}
    (fails : (progress.run sweep ending items).result = .error error) :
    error.isTimeout = false := by
  have ends {stream : Nat} {ending : FeedEnd}
      (badly : sweep.policy.atEnd stream ending = .error error) :
      error.isTimeout = false := by
    unfold FailurePolicy.atEnd at badly
    split at badly
    · cases badly
    · split at badly
      · cases badly
        rfl
      · cases badly
  rcases Progress.error_of_run fails with
    ⟨item, -, chokes⟩ | ⟨lane, -, badly⟩ | badly
  · unfold Item.exists? at chokes
    split at chokes
    · cases chokes
      rfl
    · split at chokes
      · cases chokes
        rfl
      · cases chokes
  · exact ends badly
  · exact ends badly

namespace Job

variable {σ ρ : Type}

/-- Releasing the read context takes no waiting. -/
theorem not_timedOut_release
    [Mergeable σ]
    (context : ReadContext)
    (streams : Nat)
    (progress : Progress σ ρ)
    (inlined now : Nat) :
    ¬(release context streams progress inlined now).TimedOut := by
  rintro ⟨error, failed, timeout⟩
  unfold release at failed
  cases fails : context.releaseFault with
  | some fault =>
      rw [fails] at failed
      cases failed
      cases timeout
  | none =>
      rw [fails] at failed
      dsimp only at failed
      by_cases partitioned : progress.tally.sawPartitioned
      · rw [if_pos partitioned] at failed
        cases merges : progress.store.mergeSiblings with
        | mk count store =>
            rw [merges] at failed
            cases count with
            | some count => cases failed
            | none =>
                cases failed
                cases timeout
      · rw [if_neg partitioned] at failed
        cases failed

namespace Opening

variable
  {job : Job σ ρ}
  {context : ReadContext}
  {launch : Launch}

/-- None of the waits of the job runs out on its clock: no stream keeps the join waiting
for too long and, if the join succeeds, the workers and the readers stop in time. -/
structure OnTime
    (opening : job.Opening context launch)
    (layout : IdLayout) : Prop where
  served : (opening.followed layout).stalled = none
  settles : (opening.joined layout).result = .ok () ->
    (opening.followed layout).timeline.Settles job.graceMillis

/-- A job on time whose streams can be joined comes to releasing its read context. -/
theorem execute_of_onTime
    [Mergeable σ]
    (opening : job.Opening context launch)
    (layout : IdLayout)
    (joins : (opening.joined layout).result = .ok ())
    (onTime : opening.OnTime layout) :
    ∃ inlined now, job.execute layout context launch =
      release context (opening.others.length + 1)
        (opening.joined layout).progress inlined now := by
  obtain ⟨workers, readers⟩ := onTime.settles joins
  rw [opening.execute_of_joined layout onTime.served joins, conclude]
  dsimp only
  rw [if_neg (by omega), if_pos readers]
  exact ⟨_, _, rfl⟩

/-- What a job on time comes to is what its sequential run comes to. -/
theorem execute_agrees
    [Mergeable σ]
    (opening : job.Opening context launch)
    (layout : IdLayout)
    (onTime : opening.OnTime layout) :
    (job.execute layout context launch).Agrees (opening.sequential layout) := by
  cases joins : (opening.joined layout).result with
  | ok _ =>
      obtain ⟨inlined, now, released⟩ :=
        opening.execute_of_onTime layout joins onTime
      rw [released, sequential, joins]
      exact release_agrees _ _ _ _ _
  | error error =>
      have failed := opening.execute_of_failed layout onTime.served joins
      have reference : (opening.sequential layout).result = .error error := by
        rw [sequential, joins]
      exact Outcome.Agrees.of_error failed reference

/-- A job is on time exactly if it does not fail with a wait that ran out. -/
theorem not_timedOut_iff
    [Mergeable σ]
    (opening : job.Opening context launch)
    (layout : IdLayout) :
    ¬(job.execute layout context launch).TimedOut ↔ opening.OnTime layout := by
  constructor
  · intro punctual
    cases served : (opening.followed layout).stalled with
    | some stream =>
        rw [opening.execute_of_stalled layout served] at punctual
        exact absurd ⟨_, rfl, rfl⟩ punctual
    | none =>
        refine ⟨served, fun joins => ?_⟩
        rw [opening.execute_of_joined layout served joins, conclude] at punctual
        dsimp only at punctual
        split at punctual
        · exact absurd ⟨_, rfl, rfl⟩ punctual
        · next workers =>
          split at punctual
          · next readers => exact ⟨Nat.le_of_not_lt workers, readers⟩
          · exact absurd ⟨_, rfl, rfl⟩ punctual
  · intro onTime
    cases joins : (opening.joined layout).result with
    | ok _ =>
        obtain ⟨inlined, now, released⟩ :=
          opening.execute_of_onTime layout joins onTime
        rw [released]
        exact not_timedOut_release _ _ _ _ _
    | error error =>
        rintro ⟨other, failed, timeout⟩
        rw [opening.execute_of_failed layout onTime.served joins] at failed
        cases failed
        rw [Progress.isTimeout_of_run joins] at timeout
        cases timeout

/-- The pauses of the readers and the runs of the program take no longer, all together,
than the job waits for anything to stop. -/
def Brisk
    (opening : job.Opening context launch)
    (layout : IdLayout) : Prop :=
  ((opening.primary :: opening.others).map KeyStream.pauseMillis).sum +
      Visited.totalMillis (opening.joined layout).progress.visited ≤
    job.graceMillis

instance
    (opening : job.Opening context launch)
    (layout : IdLayout) :
    Decidable (opening.Brisk layout) :=
  inferInstanceAs (Decidable (_ ≤ _))

/-- A brisk job is on time. -/
theorem Brisk.onTime
    {opening : job.Opening context launch}
    {layout : IdLayout}
    (brisk : opening.Brisk layout) :
    opening.OnTime layout := by
  have begins := Timeline.paced_start (σ := σ) (ρ := ρ) job.pace
    (opening.primary :: opening.others)
  have pauses := Timeline.weight_start_le (σ := σ) (ρ := ρ) job.pace
    (opening.primary :: opening.others)
  have submits := (opening.ready layout).submitted_run opening.sweep
    opening.probe.ending opening.probe.items
  have runs : (opening.joined layout).progress.visited =
      (opening.joined layout).moves.filterMap Move.submitted? := submits
  have total := brisk
  rw [Brisk, runs] at total
  have patience : job.graceMillis ≤ job.pace.patience := Nat.le_add_left _ _
  have early : Timeline.weight (σ := σ) (ρ := ρ)
        (.start job.pace (opening.primary :: opening.others)) +
      Visited.totalMillis
        ((opening.joined layout).moves.filterMap Move.submitted?) ≤
      job.pace.patience := by
    omega
  obtain ⟨served, paced, weight⟩ := begins.follow job.pace early
  exact ⟨served, fun _ => paced.settles (weight ▸ by omega)⟩

/-- A job takes no time whose readers do not pause and whose runs take none. -/
theorem brisk_of_instant
    (opening : job.Opening context launch)
    (layout : IdLayout)
    (awake : ∀ source ∈ opening.primary :: opening.others,
      source.stall = none)
    (instant : ∀ view own, (job.program view own).millis = 0) :
    opening.Brisk layout := by
  have pauses : ((opening.primary :: opening.others).map
      KeyStream.pauseMillis).sum = 0 := by
    rw [List.sum_eq_zero_iff]
    intro millis member
    obtain ⟨source, among, rfl⟩ := List.mem_map.1 member
    rw [KeyStream.pauseMillis, awake source among]
    rfl
  have runs : Visited.totalMillis
      (opening.joined layout).progress.visited = 0 := by
    rw [Visited.totalMillis, List.sum_eq_zero_iff]
    intro millis member
    obtain ⟨visited, among, rfl⟩ := List.mem_map.1 member
    have follows : (opening.ready layout).Follows opening.sweep
        ⟨opening.start layout, 0, []⟩ := rfl
    have effects := (Progress.run_eq_course follows opening.probe.ending
      opening.probe.items).2
    have made : visited ∈ (Effects.visitAll opening.sweep
        ⟨opening.start layout, 0, []⟩
        (opening.joined layout).progress.account.views).visited :=
      congrArg Effects.visited effects ▸ among
    rcases Effects.runs_visitAll _ _ _ made with earlier | ⟨own, run⟩
    · cases earlier
    · rw [run]
      exact instant visited.view own
  rw [Brisk, pauses, runs]
  exact Nat.zero_le _

end Opening
end Job
end GraphSweep
