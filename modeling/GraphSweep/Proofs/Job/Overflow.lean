import GraphSweep.Proofs.Job.Isolation
import GraphSweep.Proofs.Join.Errors
import GraphSweep.Proofs.Pipeline.Record
import GraphSweep.Proofs.StateStore.Overflow

/-!
# Numbers that do not fit

A program that fails for a vertex because its numbers do not fit takes the state from
that vertex alone. Not so when the numbers of the siblings of a vertex do not fit
together: nothing guards the merging of states, so that the whole job is lost then, with
all that it has computed for other vertices.
-/

namespace GraphSweep

namespace Pipeline

variable
  {σ ρ : Type}
  [Mergeable σ]
  {setup : Setup σ ρ}
  {start : Effects σ ρ}
  {foreseen : Except JobError Account}
  {pipeline next : Pipeline σ ρ}

/-- Whatever happens in whatever order without a wait running out, a job keeps to its
forecast or is lost. -/
theorem Faithful.follow_or_lost
    {actions : List Action}
    (before : pipeline.Faithful setup start foreseen ∨
      pipeline.phase = .ended (.error .taskLost))
    (punctual : .expire ∉ actions)
    (follows : pipeline.follow setup actions = some next) :
    next.Faithful setup start foreseen ∨
      next.phase = .ended (.error .taskLost) := by
  induction actions generalizing pipeline with
  | nil =>
      cases follows
      exact before
  | cons action actions hypothesis =>
      rw [List.mem_cons, not_or] at punctual
      rw [follow_cons] at follows
      obtain ⟨middle, acts, follows⟩ := Option.bind_eq_some_iff.1 follows
      refine hypothesis ?_ punctual.2 follows
      rcases before with faithful | lost
      · exact (faithful.act_or_loses (Ne.symm punctual.1) acts).imp_right Loses.lost
      · exact Or.inr (ended_act lost acts)

end Pipeline

namespace Job

/-- A read context that is released without a fault ends the job well or loses it. -/
theorem release_ends
    {σ ρ : Type}
    [Mergeable σ]
    {context : ReadContext}
    (released : context.releaseFault = none)
    (streams : Nat)
    (progress : Progress σ ρ)
    (inlined now : Nat) :
    (∃ tally, (release context streams progress inlined now).result = .ok tally) ∨
      (release context streams progress inlined now).result = .error .taskLost := by
  unfold release
  rw [released]
  dsimp only
  split
  · split
    · exact Or.inl ⟨_, rfl⟩
    · exact Or.inr rfl
  · exact Or.inl ⟨_, rfl⟩

namespace Opening

section Sound

variable
  {σ ρ : Type}
  {job : Job σ ρ}
  {context : ReadContext}
  {launch : Launch}

/-- Streams without a fault that say of each vertex whether it exists can be joined. -/
theorem joined_of_sound
    (opening : job.Opening context launch)
    (layout : IdLayout)
    (sound : ∀ source ∈ opening.primary :: opening.others, source.fault? = none)
    (readable : ∀ item ∈ opening.primary.delivered, item.failures = []) :
    (opening.joined layout).result = .ok () := by
  have exhausted (source : KeyStream) (stream : Nat)
      (member : source ∈ opening.primary :: opening.others) :
      job.config.policy.atEnd stream (FeedEnd.ofFault? source.fault?) =
        .ok () := by
    rw [sound source member]
    rfl
  cases joins : (opening.joined layout).result with
  | ok _ => rfl
  | error error =>
      exfalso
      rcases Progress.error_of_run joins with
        ⟨item, member, chokes⟩ | ⟨lane, member, breaks⟩ | ends
      · rw [probe, KeyStream.feed_eq] at member
        rw [item.exists?_eq, readable item member] at chokes
        cases chokes
      · have among : lane ∈ opening.lanes := member
        rw [lanes_eq] at among
        obtain ⟨⟨entry, stream⟩, numbered, rfl⟩ := List.mem_map.1 among
        have asked : entry ∈ opening.asked := List.fst_mem_of_mem_zipIdx numbered
        have source : entry.2 ∈ opening.others :=
          opening.asked_map_snd ▸ List.mem_map_of_mem asked
        have fine := exhausted entry.2 stream (List.mem_cons_of_mem _ source)
        cases breaks.symm.trans fine
      · rw [probe, KeyStream.feed_eq] at ends
        cases ends.symm.trans (exhausted opening.primary 0 List.mem_cons_self)

variable
  [Mergeable σ]
  {opening : job.Opening context launch}
  {layout : IdLayout}
  {outcome : Outcome σ ρ}

/-- A job whose streams can be joined and whose read context can be released ends well
or is lost when none of its waits runs out. -/
theorem Yields.ok_or_lost
    (yields : opening.Yields layout outcome)
    (joins : (opening.joined layout).result = .ok ())
    (released : context.releaseFault = none) :
    (∃ tally, outcome.result = .ok tally) ∨
      outcome.result = .error .taskLost := by
  cases yields with
  | clocked onTime =>
      obtain ⟨inlined, now, ends⟩ :=
        opening.execute_of_onTime layout joins onTime
      rw [ends]
      exact release_ends released _ _ _ _
  | interleaved actions pipeline _ punctual follows ends =>
      have kept := Pipeline.Faithful.follow_or_lost
        (Or.inl (opening.faithful_launched layout)) punctual follows
      rcases kept with faithful | lost
      · rcases ends_cases faithful ends with
          ⟨error, foreseen, -⟩ | ⟨tally, -, -, result, -⟩
        · rw [opening.foreseen_eq layout, joins, Except.bind, released_eq,
            released] at foreseen
          cases foreseen
        · exact Or.inl ⟨tally, result⟩
      · simp only [Pipeline.outcome?, lost, Option.some.injEq] at ends
        exact Or.inr (ends ▸ rfl)

/-- A job that can merge its siblings ends well. -/
theorem Yields.ok_of_free
    (yields : opening.Yields layout outcome)
    (joins : (opening.joined layout).result = .ok ())
    (released : context.releaseFault = none)
    (free : opening.MergesFreely layout) :
    ∃ tally, outcome.result = .ok tally := by
  have same := (yields.matches free).result
  have reference := (opening.sequential_of_ok layout free joins released).1
  exact Outcome.exists_ok_of_same same.symm reference

end Sound

section Overflow

variable
  {ρ : Type}
  {job : Job UInt64 ρ}
  {context : ReadContext}
  {launch : Launch}

/-- Numbers that do not fit. In a job over streams without a fault none of whose waits
runs out, every vertex that exists is run for, and only its entry is changed: a run that
does not complete leaves it without a state. If the numbers of the siblings of each
vertex fit together, or no siblings are merged, the job ends well. Each vertex then has
the sum of what its siblings have, or no state if one of them has none. But the job is
lost if there are siblings all of which have a number and whose numbers do not fit
together. These are all its ends. -/
theorem overflow_of_siblings_loses_the_job
    (opening : job.Opening context launch)
    (layout : IdLayout)
    (outcome : Outcome UInt64 ρ)
    (sound : ∀ source ∈ opening.primary :: opening.others, source.fault? = none)
    (readable : ∀ item ∈ opening.primary.delivered, item.failures = [])
    (released : context.releaseFault = none)
    (yields : opening.Yields layout outcome) :
    let views := (opening.joined layout).progress.account.views
    let written := opening.written layout
    let merges := views.any View.isPartitioned
    let live := (Item.leading opening.primary.delivered).filter Item.isLive
    views.map View.id = live.map Item.id ∧
    (∀ view ∈ views, StateStore.entry? written view.id =
      (opening.runOf layout view).visit.leaves
        (StateStore.entry? (job.startStore layout) view.id)) ∧
    (∀ id ∉ views.map View.id, StateStore.entry? written id =
      StateStore.entry? (job.startStore layout) id) ∧
    ((∃ tally, outcome.result = .ok tally) ∨
      outcome.result = .error .taskLost) ∧
    ((merges -> ∀ id, StateStore.kinTotal written id < UInt64.size) ->
      ∃ tally, outcome.result = .ok tally) ∧
    (merges -> ∀ id, none ∉ StateStore.kinEntries written id ->
      UInt64.size ≤ StateStore.kinTotal written id ->
        outcome.result = .error .taskLost) ∧
    ∀ tally, outcome.result = .ok tally ->
      (∀ view ∈ views,
        (opening.runOf layout view).visit.ending ≠ .completed ->
          ∀ other, outcome.store.Kin view.id other ->
            outcome.store.answers other = (none, true, true)) ∧
      ∀ id, outcome.store.answers id = StateStore.toldBy
        (if merges then StateStore.united written id
          else StateStore.entry? written id) := by
  intro views written merges live
  have joins := opening.joined_of_sound layout sound readable
  have covers := opening.covers_joined layout joins
  have ends := yields.ok_or_lost joins released
  obtain ⟨submitted, runs⟩ := yields.exists_runs
  have gathered {tally : Tally} (succeeded : outcome.result = .ok tally) :
      ∃ order, written.Gathers merges order outcome.store := by
    have all := (runs.succeeded succeeded).submits
    have merged := runs.exists_gathers succeeded
    rw [all] at merged
    exact merged
  refine ⟨covers.views, fun view member => opening.entry?_written layout joins
    member, fun id apart => opening.entry?_written_of_not_mem layout apart, ends,
    ?_, ?_, ?_⟩
  · intro fits
    refine yields.ok_of_free joins released fun _ partitioned => ?_
    have among : merges = true := covers.partitioned.symm.trans partitioned
    exact StateStore.mergesFreely_of_fits (fits among)
  · intro among id stated exceeds
    rcases ends with ⟨tally, succeeded⟩ | lost
    · obtain ⟨order, gathers⟩ := gathered succeeded
      rw [among] at gathers
      exact absurd exceeds (Nat.not_le.2 (gathers.fits stated))
    · exact lost
  · intro tally succeeded
    obtain ⟨order, gathers⟩ := gathered succeeded
    have course := runs.succeeded succeeded
    refine ⟨fun view member missed other kin => ?_, fun id => ?_⟩
    · have fails : view.id ∈ Visited.failing outcome.visited :=
        course.mem_failing.2 ⟨view, course.submits ▸ member, rfl, missed⟩
      have merged := gathers
      simp only [merges, views, ← course.submits] at merged
      exact answers_of_failing course merged fails kin
    · rw [gathers.answers (opening.merged_written layout)]
      cases among : merges with
      | false => rfl
      | true =>
          rw [among] at gathers
          rw [gathers.gatheredEntry_eq_united, if_pos rfl]

end Overflow
end Opening
end Job

namespace TwoStreams

/-- An ordinary vertex and two siblings of a partitioned one. -/
def pieces : List Read :=
  reads
    [ (4, [Relation.markerEntry]), (5, [Relation.markerEntry]),
      (9, [Relation.markerEntry]) ]

/-- A program that crashes for the ordinary vertex and gives siblings a number. -/
def numbering (number : UInt64) : Program UInt64 Unit := fun view _ =>
  if view.isPartitioned then Visit.write number
  else { Visit.write 5 with ending := .crashed }

/-- The job that gives the two siblings a number. -/
def numbered (number : UInt64) :
    ((job .fail).running (numbering number)).Opening (context pieces other)
      Launch.ordinary :=
  (opening .fail pieces other).running (numbering number)

/-- Half of what fits into a word. -/
def half : UInt64 := 9223372036854775808

/-- What this job comes to on the clock. -/
def numberedOutcome (number : UInt64) : Outcome UInt64 Unit :=
  ((job .fail).running (numbering number)).execute IdLayout.standard
    (context pieces other) Launch.ordinary

/-- The job takes no time. -/
theorem yields_numberedOutcome (number : UInt64) :
    (numbered number).Yields IdLayout.standard (numberedOutcome number) := by
  have brisk : (numbered number).Brisk IdLayout.standard := by
    refine (numbered number).brisk_of_instant _ ?_ ?_
    · change ∀ source ∈ [⟨pieces, none⟩, ⟨other, none⟩],
        KeyStream.stall source = none
      decide
    · intro view own
      change (numbering number view own).millis = 0
      unfold numbering
      split <;> rfl
  exact .clocked brisk.onTime

/-- Two siblings each of which has half of what fits are enough to lose the job, though
the program has completed for both. -/
theorem numbers_of_two_streams_lose_the_job :
    (∀ source ∈ (numbered half).primary :: (numbered half).others,
      source.fault? = none) ∧
    (∀ item ∈ (numbered half).primary.delivered, item.failures = []) ∧
    (context pieces other).releaseFault = none ∧
    (numbered half).Yields IdLayout.standard (numberedOutcome half) ∧
    Visited.failing (numberedOutcome half).visited = [4] ∧
    (numberedOutcome half).result = .error .taskLost := by
  have lost : (numberedOutcome half).result = .error .taskLost := by
    decide +kernel
  exact ⟨by decide +kernel, by decide +kernel, rfl, yields_numberedOutcome half,
    by decide +kernel, lost⟩

theorem numbers_of_two_streams_fit_or_lose_the_job :
    (∃ tally, (numberedOutcome 7).result = .ok tally ∧
      (numberedOutcome 7).store.answers 4 = (none, true, true) ∧
      (numberedOutcome 7).store.answers 9 = (some 14, true, false)) ∧
    (numberedOutcome half).result = .error .taskLost := by
  have sound (number : UInt64) : ∀ source ∈
      (numbered number).primary :: (numbered number).others,
      source.fault? = none := by
    change ∀ source ∈ [⟨pieces, none⟩, ⟨other, none⟩],
      KeyStream.fault? source = none
    decide +kernel
  have readable (number : UInt64) : ∀ item ∈ (numbered number).primary.delivered,
      item.failures = [] := by
    change ∀ item ∈ KeyStream.delivered ⟨pieces, none⟩, item.failures = []
    decide +kernel
  have law (number : UInt64) :=
    Job.Opening.overflow_of_siblings_loses_the_job (numbered number)
      IdLayout.standard (numberedOutcome number) (sound number)
      (readable number) rfl (yields_numberedOutcome number)
  constructor
  · have ends : (numberedOutcome 7).result = .ok ⟨3, 0, 1, 2, 0, 0, true⟩ := by
      decide +kernel
    obtain ⟨-, -, -, -, -, -, told⟩ := law 7
    obtain ⟨failing, told⟩ := told _ ends
    refine ⟨_, ends, ?_, ?_⟩
    · rw [told]
      decide +kernel
    · rw [told]
      decide +kernel
  · obtain ⟨-, -, -, -, -, loses, -⟩ := law half
    exact loses (by decide +kernel) 9 (by decide +kernel) (by decide +kernel)

end TwoStreams
end GraphSweep
