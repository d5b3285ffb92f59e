import GraphSweep.Proofs.Job.Snapshot
import GraphSweep.Proofs.Job.Stored
import GraphSweep.Proofs.StateStore.Rounds

/-!
# Jobs run one after another

A job that adds a weight to the state of each vertex may be run again and again over
the same graph, each time with the store of the run before. Every vertex then counts
each of its pieces once for each run, although the siblings are merged in between and
start again from nothing.
-/

namespace GraphSweep

/-- Add a weight to the state of each vertex. -/
def Program.adding {ρ : Type} (weight : VertexId -> UInt64) :
    Program UInt64 ρ := fun view own =>
  match own.current? with
  | none => Visit.crash
  | some held =>
      match Mergeable.merge held (weight view.id) with
      | none => Visit.crash
      | some sum => Visit.write sum

/-- The weight is added where the sum fits. -/
theorem Program.adding_of_fits
    {ρ : Type}
    {weight : VertexId -> UInt64}
    (view : View)
    {own : OwnState UInt64}
    {held : Nat}
    (current : own.current? = some (UInt64.ofNat held))
    (fits : held + (weight view.id).toNat < UInt64.size) :
    Program.adding (ρ := ρ) weight view own =
      Visit.write (UInt64.ofNat (held + (weight view.id).toNat)) := by
  have bounded : held < UInt64.size :=
    Nat.lt_of_le_of_lt (Nat.le_add_right _ _) fits
  have merges : Mergeable.merge (UInt64.ofNat held) (weight view.id) =
      some (UInt64.ofNat held + weight view.id) := by
    refine if_pos ?_
    rw [UInt64.toNat_ofNat_of_lt' bounded]
    exact fits
  have sum : UInt64.ofNat held + weight view.id =
      UInt64.ofNat (held + (weight view.id).toNat) := by
    rw [UInt64.ofNat_add, UInt64.ofNat_toNat]
  rw [adding, current]
  dsimp only
  rw [merges, sum]

namespace Job

/-- What a job comes to on its clock that has been run again some times, each time with
the store of the run before. -/
def again
    {σ ρ : Type}
    [Mergeable σ]
    (job : Job σ ρ)
    (layout : IdLayout)
    (context : ReadContext)
    (launch : Launch) : Nat -> Outcome σ ρ
  | 0 => job.execute layout context launch
  | times + 1 =>
      (job.resume (job.again layout context launch times).store).execute layout
        context launch

namespace Opening

variable
  {σ ρ : Type}
  {context : ReadContext}
  {launch : Launch}

/-- What the last one of some jobs comes to that are run one after another over the
same streams. The first begins as it is set up, and each later one goes on with the
store of the one before, which has succeeded. No wait runs out in any of them. -/
inductive Rounds
    [Mergeable σ]
    {job : Job σ ρ}
    (opening : job.Opening context launch)
    (layout : IdLayout) : Nat -> Outcome σ ρ -> Prop
  | first
      (outcome : Outcome σ ρ)
      (yields : opening.Yields layout outcome) :
      Rounds opening layout 1 outcome
  | next
      (count : Nat)
      (before outcome : Outcome σ ρ)
      (tally : Tally)
      (earlier : Rounds opening layout count before)
      (succeeded : before.result = .ok tally)
      (yields : (opening.resume before.store).Yields layout outcome) :
      Rounds opening layout (count + 1) outcome

/-- A round that succeeds dispatches what was foreseen. -/
theorem Rounds.foreseen
    [Mergeable σ]
    {job : Job σ ρ}
    {opening : job.Opening context launch}
    {layout : IdLayout}
    {count : Nat}
    {outcome : Outcome σ ρ}
    {tally : Tally}
    (rounds : opening.Rounds layout count outcome)
    (ends : outcome.result = .ok tally) :
    ∃ final, opening.foreseen = .ok final ∧
      (outcome.visited.map fun run => run.view.id).Perm
        (final.views.map View.id) := by
  have noted {seeded : Job σ ρ}
      (opening : seeded.Opening context launch)
      (yields : opening.Yields layout outcome) :
      ∃ final, opening.foreseen = .ok final ∧
        (outcome.visited.map fun run => run.view.id).Perm
          (final.views.map View.id) := by
    obtain ⟨submitted, runs⟩ := yields.exists_runs
    have succeeded := runs.succeeded ends
    have viewed := succeeded.viewed.map View.id
    rw [succeeded.submits, List.map_map] at viewed
    exact ⟨_, runs.foreseen ends, viewed⟩
  cases rounds with
  | first _ yields => exact noted opening yields
  | next _ before _ _ _ _ yields => exact noted (opening.resume before.store) yields

/-- What a round comes to: it succeeds, it dispatches some vertices, and its store holds
what the rounds come to. -/
structure Round
    (layout : IdLayout)
    (weight : VertexId -> UInt64)
    (dispatched : List VertexId)
    (count : Nat)
    (outcome : Outcome UInt64 ρ) : Prop where
  succeeds : ∃ tally, outcome.result = .ok tally
  dispatches : (outcome.visited.map fun run => run.view.id).Perm dispatched
  holds : outcome.store.Holds layout weight dispatched count
  merged : outcome.store.merged = dispatched.any VertexId.isPartitioned

section Round

variable
  {job : Job UInt64 ρ}
  {opening : job.Opening context launch}
  {layout : IdLayout}
  {weight : VertexId -> UInt64}
  {count : Nat}
  {final : Account}

/-- Running the program for all dispatched vertices gives each of them its weight. -/
theorem raised_written
    (foreseen : opening.foreseen = .ok final)
    (adds : job.program = Program.adding weight)
    (zero : opening.initializer = .state 0)
    (fits : ∀ id ∈ final.views.map View.id, (count + 1) *
      share layout weight (final.views.map View.id) id < UInt64.size)
    (holds : (job.startStore layout).Holds layout weight
      (final.views.map View.id) count) :
    (opening.written layout).Raised layout weight (final.views.map View.id)
      count := by
  have joins := (opening.joined_of_ok layout foreseen).1
  have views := opening.views_of_foreseen layout foreseen
  refine ⟨(opening.layout_written layout).trans holds.same, ?_, ?_⟩
  · intro id member
    have bounded := Nat.lt_of_le_of_lt
      (StateStore.carried_add_weight_le layout weight count member)
      (fits id member)
    have own := holds.own member
    obtain ⟨view, among, rfl⟩ := List.mem_map.1 member
    have run : (opening.runOf layout view).visit =
        Visit.write (UInt64.ofNat (StateStore.carried layout weight
          (final.views.map View.id) count view.id +
            (weight view.id).toNat)) := by
      rw [runOf, adds, zero]
      exact Program.adding_of_fits view own bounded
    have entry := opening.entry?_written layout joins (views ▸ among)
    rw [run] at entry
    exact entry
  · intro id dead
    rw [← holds.entry]
    exact opening.entry?_written_of_not_mem layout (views ▸ dead)

/-- One round more. -/
theorem round_of_yields
    (opening : job.Opening context launch)
    {outcome : Outcome UInt64 ρ}
    (foreseen : opening.foreseen = .ok final)
    (adds : job.program = Program.adding weight)
    (zero : opening.initializer = .state 0)
    (fits : ∀ id ∈ final.views.map View.id, (count + 1) *
      share layout weight (final.views.map View.id) id < UInt64.size)
    (holds : (job.startStore layout).Holds layout weight
      (final.views.map View.id) count)
    (yields : opening.Yields layout outcome) :
    Round layout weight (final.views.map View.id) (count + 1) outcome := by
  obtain ⟨joins, released, -⟩ := opening.joined_of_ok layout foreseen
  have views := opening.views_of_foreseen layout foreseen
  have distinct : (final.views.map View.id).Nodup := by
    rw [views]
    exact opening.nodup_views layout joins
  have raised := raised_written foreseen adds zero fits holds
  have free : opening.MergesFreely layout := fun _ _ =>
    raised.mergesFreely distinct fits
  obtain ⟨tally, ends⟩ : ∃ tally, outcome.result = .ok tally :=
    Outcome.exists_ok_of_same (yields.matches free).result.symm
      (opening.sequential_of_ok layout free joins released).1
  obtain ⟨submitted, runs⟩ := yields.exists_runs
  obtain ⟨order, gathers⟩ := runs.exists_gathers ends
  have succeeded := runs.succeeded ends
  have submits : submitted = final.views := succeeded.submits.trans views.symm
  have partitioned : submitted.any View.isPartitioned =
      (final.views.map View.id).any VertexId.isPartitioned := by
    rw [submits, List.any_map]
    rfl
  refine ⟨⟨tally, ends⟩, ?_, raised.holds distinct fits gathers partitioned, ?_⟩
  · have ids := succeeded.viewed.map View.id
    rw [submits, List.map_map] at ids
    exact ids
  · rw [gathers.merged (opening.merged_written layout), partitioned]

/-- However many rounds there are, they come to what the weights do. -/
theorem round_of_rounds
    {outcome : Outcome UInt64 ρ}
    (foreseen : opening.foreseen = .ok final)
    (adds : job.program = Program.adding weight)
    (zero : opening.initializer = .state 0)
    (fresh : job.seed = none)
    (fits : ∀ id ∈ final.views.map View.id, count *
      share layout weight (final.views.map View.id) id < UInt64.size)
    (rounds : opening.Rounds layout count outcome) :
    Round layout weight (final.views.map View.id) count outcome := by
  induction rounds with
  | first outcome yields =>
      have holds : (job.startStore layout).Holds layout weight
          (final.views.map View.id) 0 := by
        rw [startStore, fresh]
        exact StateStore.holds_empty
      exact round_of_yields opening foreseen adds zero fits holds yields
  | next count before outcome tally earlier succeeded yields hypothesis =>
      have round := hypothesis fun id member => Nat.lt_of_le_of_lt
        (Nat.mul_le_mul_right _ (Nat.le_succ count)) (fits id member)
      exact round_of_yields (opening.resume before.store) foreseen adds zero fits
        round.holds yields

/-- A job that adds weights takes no time where its readers do not pause. -/
theorem brisk_of_adding
    (opening : job.Opening context launch)
    (adds : job.program = Program.adding weight)
    (awake : ∀ source ∈ opening.primary :: opening.others,
      source.stall = none) :
    opening.Brisk layout := by
  refine opening.brisk_of_instant layout awake fun view own => ?_
  rw [adds, Program.adding]
  split
  · rfl
  · split <;> rfl

/-- Run on its clock again and again, the job makes one round after another. -/
theorem rounds_again
    (foreseen : opening.foreseen = .ok final)
    (adds : job.program = Program.adding weight)
    (zero : opening.initializer = .state 0)
    (fresh : job.seed = none)
    (awake : ∀ source ∈ opening.primary :: opening.others,
      source.stall = none)
    (times : Nat)
    (fits : ∀ id ∈ final.views.map View.id, (times + 1) *
      share layout weight (final.views.map View.id) id < UInt64.size) :
    opening.Rounds layout (times + 1)
      (job.again layout context launch times) := by
  induction times with
  | zero =>
      exact .first _ (yields_of_brisk (brisk_of_adding opening adds awake))
  | succ times hypothesis =>
      have fitsBefore : ∀ id ∈ final.views.map View.id, (times + 1) *
          share layout weight (final.views.map View.id) id < UInt64.size :=
        fun id member => Nat.lt_of_le_of_lt
          (Nat.mul_le_mul_right _ (Nat.le_succ (times + 1))) (fits id member)
      have earlier := hypothesis fitsBefore
      obtain ⟨tally, ends⟩ := (round_of_rounds foreseen adds zero fresh fitsBefore
        earlier).succeeds
      exact .next (times + 1) _ _ tally earlier ends
        (yields_of_brisk (brisk_of_adding (opening.resume _) adds awake))

end Round

/-- Rounds accumulate. Take any graph, and a job that adds a weight to the state of each
vertex, beginning with zero. When it is run over the graph again and again, each time with
the store of the run before, and the runs succeed, each dispatched vertex that is not
partitioned ends with its weight as many times as there were runs, and every sibling of a
partitioned one is read as the sum of the weights of its dispatched siblings as many
times, as long as this fits in a word. The runs do succeed, on the clock of the job and
however its parts interleave, if the graph names no negative vertex, and dispatch the
vertices whose probe tells that they exist. These are the marked ones unless a reserved
type has been written. -/
theorem rounds_accumulate
    {job : Job UInt64 ρ}
    {ids : IdLayout}
    {writes : List GraphStore.Write}
    (opening : job.Opening
      (Transaction.begin (GraphStore.ofWrites ids writes)).context launch)
    (layout : IdLayout)
    (weight : VertexId -> UInt64)
    (count : Nat)
    (adds : job.program = Program.adding weight)
    (zero : job.initializer = some (.state 0))
    (fresh : job.seed = none)
    (positive : 0 < count) :
    (∀ outcome tally, opening.Rounds layout count outcome ->
      outcome.result = .ok tally ->
      let dispatched := outcome.visited.map fun run => run.view.id
      (∀ id ∈ dispatched,
        count * share layout weight dispatched id < UInt64.size) ->
      dispatched.Nodup ∧
      (∀ id ∈ dispatched, VertexId.isPartitioned id = false ->
        (outcome.store.get id).map UInt64.toNat =
          some (count * (weight id).toNat)) ∧
      ∀ id ∈ dispatched, VertexId.isPartitioned id = true ->
        ∀ sibling, layout.canonical sibling = layout.canonical id ->
          (outcome.store.get sibling).map UInt64.toNat =
            some (count * share layout weight dispatched id)) ∧
    ((∀ write ∈ writes, write.Natural) ->
      (∀ id ∈ opening.live,
        count * share layout weight opening.live id < UInt64.size) ->
      opening.Rounds layout count (job.again layout
        (Transaction.begin (GraphStore.ofWrites ids writes)).context launch
        (count - 1)) ∧
      ∀ outcome, opening.Rounds layout count outcome ->
        let dispatched := outcome.visited.map fun run => run.view.id
        (∃ tally, outcome.result = .ok tally) ∧
        dispatched.Perm opening.live ∧
        ((∀ write ∈ writes, write.Admissible) -> ∀ id, id ∈ dispatched ↔
          VertexId.isHidden id = false ∧ GraphStore.Marked ids writes id)) := by
  have initial : opening.initializer = .state 0 :=
    Option.some.inj (opening.initialized.symm.trans zero)
  refine ⟨?accumulates, ?succeeds⟩
  case accumulates =>
    intro outcome tally rounds ends dispatched fits
    obtain ⟨final, foreseen, same⟩ := rounds.foreseen ends
    have fits : ∀ id ∈ final.views.map View.id, count *
        share layout weight (final.views.map View.id) id < UInt64.size := by
      intro id member
      rw [← share_perm same]
      exact fits id (same.mem_iff.2 member)
    obtain ⟨-, -, holds, merged⟩ :=
      round_of_rounds foreseen adds initial fresh fits rounds
    have distinct : (final.views.map View.id).Nodup := by
      rw [opening.views_of_foreseen layout foreseen]
      exact opening.nodup_views layout (opening.joined_of_ok layout foreseen).1
    have read : ∀ id ∈ dispatched, ∀ sibling,
        layout.canonical sibling = layout.canonical id ->
        (outcome.store.get sibling).map UInt64.toNat =
          some (count * share layout weight (final.views.map View.id) id) := by
      intro id member sibling kin
      have among := same.mem_iff.1 member
      rw [holds.get positive merged among kin, Option.map_some,
        UInt64.toNat_ofNat_of_lt' (fits id among)]
    refine ⟨same.nodup_iff.2 distinct, ?_, ?_⟩
    · intro id member whole
      rw [read id member id rfl,
        share_of_whole distinct (same.mem_iff.1 member) whole]
    · intro id member _ sibling kin
      rw [read id member sibling kin, share_perm same]
  case succeeds =>
    intro natural fits
    obtain ⟨final, foreseen, living⟩ := opening.foreseen_of_snapshot natural
    rw [← living] at fits
    obtain ⟨times, rfl⟩ := Nat.exists_eq_succ_of_ne_zero positive.ne'
    refine ⟨rounds_again foreseen adds initial fresh opening.awake_of_snapshot
      times fits, ?_⟩
    intro outcome rounds dispatched
    obtain ⟨succeeds, dispatches, -, -⟩ :=
      round_of_rounds foreseen adds initial fresh fits rounds
    rw [living] at dispatches
    refine ⟨succeeds, dispatches, fun admissible id => ?_⟩
    rw [dispatches.mem_iff]
    exact opening.mem_live_of_snapshot admissible id

end Opening
end Job

namespace TwoStreams

/-- A vertex, and a partitioned one that has lost its canonical piece. -/
def pruned : List GraphStore.Write :=
  [.addVertex 4, .addPartitioned 2 3, .unmark 129]

/-- Three for a vertex, and five for all others. -/
def weight (id : VertexId) : UInt64 := if id = 4 then 3 else 5

/-- A job that adds these weights. -/
def counting : Job UInt64 Unit :=
  { job .fail with program := Program.adding weight }

theorem queueFits_counting :
    counting.config.queueLength.toNat ≤ JobError.longestQueue :=
  usual.queueFits

theorem workersFit_counting :
    counting.config.workers.toNat ≤ JobError.mostWorkers :=
  usual.workersFit

/-- The job over a snapshot of what is left. -/
def countingPruned : counting.Opening
    (Transaction.begin
      (GraphStore.ofWrites IdLayout.standard pruned)).context
    Launch.ordinary where
  initializer := .state 0
  primary := Transaction.streamOf
    (GraphStore.ofWrites IdLayout.standard pruned) Slice.probe
  others := [Transaction.streamOf
    (GraphStore.ofWrites IdLayout.standard pruned)
    (Slice.ofType Relation.firstFreeType)]
  accepted := rfl
  initialized := rfl
  opensProbe := rfl
  opensAll := rfl
  queueFits := queueFits_counting
  workersFit := workersFit_counting
  kept := Launch.aborted_ordinary

theorem rounds_over_pruned_accumulate :
    (∀ write ∈ pruned, write.Natural) ∧
    (∀ id ∈ countingPruned.live, 3 * share IdLayout.standard weight
      countingPruned.live id < UInt64.size) ∧
    countingPruned.Rounds IdLayout.standard 3 (counting.again
      IdLayout.standard
      (Transaction.begin
        (GraphStore.ofWrites IdLayout.standard pruned)).context
      Launch.ordinary 2) ∧
    ∀ outcome, countingPruned.Rounds IdLayout.standard 3 outcome ->
      (∃ tally, outcome.result = .ok tally) ∧
      (outcome.store.get 4).map UInt64.toNat = some 9 ∧
      ∀ sibling ∈ ([129, 133, 137] : List VertexId),
        (outcome.store.get sibling).map UInt64.toNat = some 30 := by
  have natural : ∀ write ∈ pruned, write.Natural := by
    have admissible : ∀ write ∈ pruned, write.Admissible := by
      decide +kernel
    exact fun write member => (admissible write member).natural
  have live : countingPruned.live = [4, 133, 137] := by
    decide +kernel
  have fits : ∀ id ∈ ([4, 133, 137] : List VertexId),
      3 * share IdLayout.standard weight [4, 133, 137] id < UInt64.size := by
    have held : List.all [4, 133, 137] (fun id => 3 * share IdLayout.standard
        weight [4, 133, 137] id < UInt64.size) = true := by
      decide +kernel
    exact fun id member => of_decide_eq_true (List.all_eq_true.1 held id member)
  obtain ⟨accumulates, succeeds⟩ := Job.Opening.rounds_accumulate countingPruned
    IdLayout.standard weight 3 rfl rfl rfl (by decide)
  rw [live] at succeeds ⊢
  obtain ⟨again, rounds⟩ := succeeds natural fits
  refine ⟨natural, fits, again, fun outcome run => ?_⟩
  obtain ⟨⟨tally, ends⟩, dispatches, -⟩ := rounds outcome run
  obtain ⟨-, whole, siblings⟩ := accumulates outcome tally run ends (by
    intro id member
    rw [share_perm dispatches]
    exact fits id (dispatches.mem_iff.1 member))
  refine ⟨⟨tally, ends⟩, ?_, fun sibling member => ?_⟩
  · exact whole 4 (dispatches.mem_iff.2 (by decide)) (by decide +kernel)
  · have kin : List.all [129, 133, 137] (fun sibling =>
        IdLayout.standard.canonical sibling =
          IdLayout.standard.canonical 133) = true := by
      decide +kernel
    have sum : 3 * share IdLayout.standard weight [4, 133, 137] 133 = 30 := by
      decide +kernel
    rw [siblings 133 (dispatches.mem_iff.2 (by decide)) (by decide +kernel)
      sibling (of_decide_eq_true (List.all_eq_true.1 kin sibling member)),
      share_perm dispatches, sum]

end TwoStreams
end GraphSweep
