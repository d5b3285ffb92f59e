import GraphSweep.Proofs.Job.Stored
import GraphSweep.Proofs.Join.Orphans
import GraphSweep.Proofs.Pipeline.Ledger

/-!
# No item of a data stream is lost

Whatever the streams of a job deliver, in whatever order and however often, and however
the parts of the job interleave: if the job succeeds, one thing has become of every item
that it has moved into a slot. The item has been attached to the view of its own vertex,
discarded at its own vertex, or counted as an orphan. Over ascending streams the number
of orphans has a closed form.
-/

namespace GraphSweep
namespace Job
namespace Opening

variable
  {σ ρ : Type}
  {job : Job σ ρ}
  {context : ReadContext}
  {launch : Launch}

/-- The vertices that a join of the streams handles. -/
def visits (opening : job.Opening context launch) : List Probed :=
  (Item.leading opening.primary.delivered).map Item.probed

/-- What becomes of the items of the data stream at a position, in order. -/
def ledger
    (opening : job.Opening context launch)
    (position : Nat) : List Settled :=
  match opening.lanes[position]? with
  | none => []
  | some lane => lane.ledger job.config.policy opening.visits

/-- What a join of the streams has taken of the data stream at a position by its end,
in order. -/
def takenAt
    (opening : job.Opening context launch)
    (layout : IdLayout)
    (position : Nat) : List Item :=
  match opening.lanes[position]?,
    (opening.joined layout).progress.lanes[position]? with
  | some lane, some final =>
      lane.pending.take (lane.pending.length - final.rest.length)
  | _, _ => []

/-- The runs that the job may have, each with its books: which items it has moved into
the slot of the data stream at a position, and what has become of the items, in order.
On the clock the join is not seen at work on single items; there the books are those of
the lanes. -/
inductive Books
    [Mergeable σ]
    (opening : job.Opening context launch)
    (layout : IdLayout) :
    (Nat -> List Item) -> (Nat -> List Settled) -> List View -> Outcome σ ρ ->
      Prop
  | clocked :
      Books opening layout (opening.takenAt layout) opening.ledger
        ((opening.followed layout).timeline.submitted.map Visited.view)
        (job.execute layout context launch)
  | interleaved
      (actions : List Pipeline.Action)
      (pipeline : Pipeline σ ρ)
      (outcome : Outcome σ ρ)
      (follows : (opening.launched layout).follow opening.setup actions =
        some pipeline)
      (ends : pipeline.outcome? = some outcome) :
      Books opening layout
        (fun position => (opening.launched layout).receivedBy opening.setup
          position actions)
        (fun position => (opening.launched layout).settledBy opening.setup
          position actions)
        pipeline.account.views outcome

/-- What joins the view of a vertex by the books, stream by stream. -/
def attachedTo
    (opening : job.Opening context launch)
    (ledger : Nat -> List Settled)
    (id : VertexId) : List (Slice × List Entry) :=
  opening.asked.zipIdx.flatMap fun entry =>
    (Settled.entriesFor id (ledger entry.2)).map fun entries =>
      (entry.1.1, entries)

/-- The number of items that no vertex has claimed by the books. -/
def orphansIn
    (opening : job.Opening context launch)
    (ledger : Nat -> List Settled) : Nat :=
  (opening.asked.zipIdx.map fun entry => Settled.orphans (ledger entry.2)).sum

section Lanes

variable (opening : job.Opening context launch)

/-- The data streams are the lanes of the join before its first vertex. -/
theorem lanes_eq_map :
    opening.lanes = opening.asked.zipIdx.map fun entry =>
      entry.1.2.lane (entry.2 + 1) entry.1.1 := by
  rw [opening.lanes_eq, List.zipIdx_succ, List.map_map]
  rfl

/-- The vertices handled ascend. -/
theorem pairwise_visits :
    opening.visits.Pairwise fun one other => one.id < other.id := by
  rw [visits, List.pairwise_map]
  exact Item.ascend_leading opening.primary.delivered

/-- The ledger of a data stream is that of its lane. -/
theorem ledger_of_mem
    {entry : (Slice × KeyStream) × Nat}
    (member : entry ∈ opening.asked.zipIdx) :
    opening.lanes[entry.2]? =
        some (entry.1.2.lane (entry.2 + 1) entry.1.1) ∧
      opening.ledger entry.2 =
        (entry.1.2.lane (entry.2 + 1) entry.1.1).ledger job.config.policy
          opening.visits := by
  have found : opening.lanes[entry.2]? =
      some (entry.1.2.lane (entry.2 + 1) entry.1.1) := by
    have asked := List.mem_zipIdx_iff_getElem?.1 member
    rw [lanes_eq_map, List.getElem?_map, List.getElem?_zipIdx, asked]
    simp
  refine ⟨found, ?_⟩
  rw [ledger, found]

/-- The join has settled the items of its lanes for the vertices handled. -/
theorem settles_joined
    (layout : IdLayout)
    (joins : (opening.joined layout).result = .ok ()) :
    Course.Settles job.config.policy opening.visits
      ⟨Account.blank, opening.lanes⟩
      (opening.joined layout).progress.course := by
  have settles := Course.settles_of_run (opening.course_joined layout joins)
  have handled : Item.handledAfter Account.blank.last
      opening.primary.delivered = Item.leading opening.primary.delivered :=
    Item.handledAfter_none _
  rw [handled] at settles
  exact settles

/-- What a join has taken of a data stream is what its ledger tells of, the first of
what the stream delivers. -/
theorem map_item_ledger
    (layout : IdLayout)
    (joins : (opening.joined layout).result = .ok ())
    (position : Nat) :
    (opening.ledger position).map Settled.item =
      opening.takenAt layout position := by
  have taken := (opening.settles_joined layout joins).taken
  have lengths : opening.lanes.length =
      (opening.joined layout).progress.lanes.length := taken.length_eq
  rw [ledger, takenAt]
  cases found : opening.lanes[position]? with
  | none => rfl
  | some lane =>
      obtain ⟨within, here⟩ := List.getElem?_eq_some_iff.1 found
      have reached : position < (opening.joined layout).progress.lanes.length :=
        lengths ▸ within
      have exhausts : Lane.Exhausts job.config.policy opening.visits lane
          (opening.joined layout).progress.lanes[position] :=
        here ▸ taken.get within reached
      rw [List.getElem?_eq_getElem reached]
      dsimp only
      rw [exhausts, List.length_append, Nat.add_sub_cancel, List.take_left]

/-- What has been taken of a data stream is the first of what it delivers. -/
theorem takenAt_prefix
    (layout : IdLayout)
    {entry : (Slice × KeyStream) × Nat}
    (member : entry ∈ opening.asked.zipIdx) :
    opening.takenAt layout entry.2 <+: entry.1.2.delivered := by
  have found := (opening.ledger_of_mem member).1
  rw [takenAt, found]
  cases (opening.joined layout).progress.lanes[entry.2]? with
  | none => exact List.nil_prefix
  | some final => exact List.take_prefix _ _

/-- An item in the ledger of a data stream is an orphan or has been claimed by its own
vertex, which the first stream has named. -/
theorem mem_ledger
    {position : Nat}
    {settled : Settled}
    (member : settled ∈ opening.ledger position) :
    settled.fate = .orphaned ∨
      ∃ probed ∈ opening.visits,
        settled.fate = probed.fate ∧ settled.item.id = probed.id := by
  rw [ledger] at member
  split at member
  · cases member
  · exact Lane.mem_ledger member

/-- An item is attached only to its own vertex, which exists, and discarded only at its
own vertex, which does not. -/
theorem fate_of_mem_ledger
    {position : Nat}
    {settled : Settled}
    (member : settled ∈ opening.ledger position)
    (id : VertexId) :
    (settled.fate = .attached id ->
      settled.item.id = id ∧
        ∃ item ∈ Item.leading opening.primary.delivered,
          item.id = id ∧ item.isLive = true) ∧
    (settled.fate = .discarded id ->
      settled.item.id = id ∧
        ∃ item ∈ Item.leading opening.primary.delivered,
          item.id = id ∧ item.isLive = false) := by
  rcases opening.mem_ledger member with orphaned | ⟨probed, met, claimed, same⟩
  · rw [orphaned]
    exact ⟨nofun, nofun⟩
  · obtain ⟨item, among, rfl⟩ := List.mem_map.1 met
    rw [claimed, Probed.fate_eq_attached, Probed.fate_eq_discarded]
    constructor
    · rintro ⟨live, here⟩
      exact ⟨same.trans here, item, among, here, live⟩
    · rintro ⟨gone, here⟩
      exact ⟨same.trans here, item, among, here, gone⟩

/-- The lanes have for a vertex what the books tell. -/
theorem entriesFor_lanes (id : VertexId) :
    Lane.entriesFor job.config.policy opening.visits opening.lanes id =
      opening.attachedTo opening.ledger id := by
  rw [Lane.entriesFor, attachedTo, lanes_eq_map, List.flatMap_map]
  apply List.flatMap_congr
  intro entry member
  rw [(opening.ledger_of_mem member).2]
  rfl

/-- The lanes have the orphans that the books tell. -/
theorem orphansOf_lanes :
    Lane.orphansOf job.config.policy opening.visits opening.lanes =
      opening.orphansIn opening.ledger := by
  rw [Lane.orphansOf, orphansIn, lanes_eq_map, List.map_map]
  congr 1
  apply List.map_congr_left
  intro entry member
  rw [(opening.ledger_of_mem member).2]
  rfl

/-- Where the first stream names no vertex, nothing is taken and nothing lost. -/
theorem orphansIn_of_unmet
    (unmet : Item.leading opening.primary.delivered = []) :
    opening.orphansIn opening.ledger = 0 := by
  have none : opening.visits = [] := congrArg (List.map Item.probed) unmet
  rw [orphansIn]
  apply List.sum_eq_zero
  intro count member
  obtain ⟨entry, among, rfl⟩ := List.mem_map.1 member
  rw [(opening.ledger_of_mem among).2, none]
  rfl

/-- The orphans of ascending streams. -/
theorem orphansIn_of_ascends
    (ascend : ∀ source ∈ opening.others, source.Ascends) :
    opening.orphansIn opening.ledger =
      (opening.others.map fun source => Item.unclaimed
        (opening.visits.map Probed.id) source.delivered).sum := by
  have plain : opening.others =
      opening.asked.zipIdx.map fun entry => entry.1.2 := by
    rw [← opening.asked_map_snd]
    exact (congrArg (List.map Prod.snd)
      (List.zipIdx_map_fst 0 opening.asked).symm).trans List.map_map
  rw [orphansIn, plain, List.map_map]
  congr 1
  apply List.map_congr_left
  intro entry member
  have source : entry.1.2 ∈ opening.others := by
    rw [plain]
    exact List.mem_map_of_mem member
  rw [(opening.ledger_of_mem member).2]
  exact Lane.orphans_ledger rfl (ascend _ source) opening.pairwise_visits

/-- Nothing is in a slot when the job starts. -/
theorem unsettled_launched (layout : IdLayout) (position : Nat) :
    (opening.launched layout).unsettled position = [] := by
  have lanes : (opening.launched layout).lanes = opening.lanes :=
    Channel.map_lane_start 1 _ _
  have looked : (opening.launched layout).slotAt position =
      opening.lanes[position]?.bind Lane.held := by
    rw [← lanes, Pipeline.lanes, List.getElem?_map, Pipeline.slotAt,
      Option.bind_map]
    rfl
  have empty : opening.lanes[position]?.bind Lane.held = none := by
    rw [lanes_eq_map, List.getElem?_map, Option.bind_map]
    cases opening.asked.zipIdx[position]? <;> rfl
  rw [Pipeline.unsettled, looked, empty]
  rfl

/-- What is to become of the items when the job starts is what the ledger tells. -/
theorem outlook_launched (layout : IdLayout) (position : Nat) :
    (opening.launched layout).outlook opening.setup.sweep.policy position =
      opening.ledger position := by
  have lanes : (opening.launched layout).lanes = opening.lanes :=
    Channel.map_lane_start 1 _ _
  have visits : (opening.launched layout).visitsAhead position =
      opening.visits := by
    have ahead : (opening.launched layout).visitsAhead position =
        (Item.handledAfter none opening.probe.items).map Item.probed := rfl
    rw [ahead, Item.handledAfter_none, probe, KeyStream.feed_eq]
    rfl
  rw [Pipeline.outlook, lanes, visits]
  rfl

end Lanes

section Books

variable
  [Mergeable σ]
  {opening : job.Opening context launch}
  {layout : IdLayout}
  {submitted : List View}
  {taken : Nat -> List Item}
  {ledger : Nat -> List Settled}
  {outcome : Outcome σ ρ}
  {tally : Tally}

/-- Every run of the job has its books. -/
theorem Runs.exists_books (runs : opening.Runs layout submitted outcome) :
    ∃ taken ledger,
      opening.Books layout taken ledger submitted outcome := by
  cases runs with
  | clocked => exact ⟨_, _, Books.clocked⟩
  | interleaved actions pipeline _ follows ends =>
      exact ⟨_, _, Books.interleaved actions pipeline outcome follows ends⟩

/-- Whatever the schedule, a run that succeeds has the books of its lanes. -/
theorem Books.eq_ledger
    (books : opening.Books layout taken ledger submitted outcome)
    (succeeded : outcome.result = .ok tally)
    (position : Nat) :
    ledger position = opening.ledger position ∧
      (ledger position).map Settled.item = taken position := by
  cases books with
  | clocked =>
      have joins := (opening.release_of_execute layout succeeded).2.1
      exact ⟨rfl, opening.map_item_ledger layout joins position⟩
  | interleaved actions pipeline _ follows ends =>
      have sound := Pipeline.isDoomed_of_outcome? ends succeeded
      have ended : pipeline.phase.isOver = true := by
        rw [Pipeline.phase_of_outcome? ends]
        rfl
      obtain ⟨nothing, empty⟩ := Pipeline.outlook_of_over ended
      have settled := Pipeline.outlook_follow position
        (opening.faithful_launched layout) follows sound
      have moved := Pipeline.unsettled_follow position follows sound
      rw [nothing, List.append_nil, opening.outlook_launched] at settled
      rw [empty, List.append_nil, opening.unsettled_launched] at moved
      exact ⟨settled, moved.symm⟩

/-- A job that succeeds has counted the orphans in its books. -/
theorem Succeeded.orphans
    (succeeded : opening.Succeeded layout submitted outcome tally) :
    tally.orphans = opening.orphansIn opening.ledger := by
  have counts := congrArg Tally.orphans succeeded.counts
  have settles := opening.settles_joined layout succeeded.joins
  calc
    tally.orphans =
        (opening.joined layout).progress.course.close.tally.orphans := counts
    _ = 0 + opening.orphansIn opening.ledger := by
        rw [settles.orphans, opening.orphansOf_lanes]
        rfl
    _ = opening.orphansIn opening.ledger := Nat.zero_add _

/-- A job that succeeds has dispatched views of what its books have for their
vertices. -/
theorem Succeeded.fetched
    (succeeded : opening.Succeeded layout submitted outcome tally)
    {view : View}
    (member : view ∈ submitted) :
    view.fetched = opening.attachedTo opening.ledger view.id := by
  have settles := opening.settles_joined layout succeeded.joins
  rw [succeeded.submits] at member
  rcases settles.views view member with before | ⟨-, fetched⟩
  · cases before
  · rw [fetched, opening.entriesFor_lanes]

end Books

/-- Every item has one fate. Whatever the streams of a job deliver and however its parts
interleave, if the job succeeds one thing has become of every item that it has moved
into a slot. The item has been attached to the view of its own vertex, which holds what
is attached to it and nothing else; or it has been discarded at its own vertex, which
does not exist any more; or it is counted as an orphan. Where the vertices of every data
stream ascend, the orphans are the items before the last vertex handled that are of none
of those handled, and one more for each stream that has items behind the last vertex
handled and none of it. -/
theorem items_are_conserved
    [Mergeable σ]
    (opening : job.Opening context launch)
    (layout : IdLayout)
    (submitted : List View)
    (outcome : Outcome σ ρ)
    (tally : Tally)
    (runs : opening.Runs layout submitted outcome)
    (succeeded : outcome.result = .ok tally) :
    let handled := Item.leading opening.primary.delivered
    (∃ taken ledger,
      opening.Books layout taken ledger submitted outcome) ∧
    (∀ taken ledger, opening.Books layout taken ledger submitted outcome ->
      (∀ position, (ledger position).map Settled.item = taken position) ∧
      (∀ entry ∈ opening.asked.zipIdx,
        taken entry.2 <+: entry.1.2.delivered) ∧
      (∀ position, ∀ settled ∈ ledger position, ∀ id,
        (settled.fate = .attached id ->
          settled.item.id = id ∧ id ∈ submitted.map View.id) ∧
        (settled.fate = .discarded id ->
          settled.item.id = id ∧
            ∃ item ∈ handled, item.id = id ∧ item.isLive = false)) ∧
      (∀ view ∈ submitted,
        view.fetched = opening.attachedTo ledger view.id) ∧
      tally.orphans = opening.orphansIn ledger) ∧
    (submitted.map View.id).Nodup ∧
    (handled = [] -> tally.orphans = 0) ∧
    ((∀ source ∈ opening.others, source.Ascends) ->
      tally.orphans = (opening.others.map fun source =>
        Item.unclaimed (handled.map Item.id) source.delivered).sum) := by
  intro handled
  have ends := runs.succeeded succeeded
  have covers := opening.covers_joined layout ends.joins
  have ids : submitted.map View.id =
      (handled.filter Item.isLive).map Item.id :=
    ends.submits ▸ covers.views
  have visits : opening.visits.map Probed.id = handled.map Item.id :=
    List.map_map
  refine ⟨runs.exists_books, ?_, ends.distinct, ?_, ?_⟩
  · intro taken ledger books
    have same : ledger = opening.ledger :=
      funext fun position => (books.eq_ledger succeeded position).1
    have moved := fun position => (books.eq_ledger succeeded position).2
    subst same
    refine ⟨moved, ?_, ?_, fun view member => ends.fetched member,
      ends.orphans⟩
    · intro entry member
      rw [← moved, opening.map_item_ledger layout ends.joins]
      exact opening.takenAt_prefix layout member
    · intro position settled member id
      obtain ⟨attached, discarded⟩ := opening.fate_of_mem_ledger member id
      refine ⟨fun fate => ?_, discarded⟩
      obtain ⟨same, item, among, here, live⟩ := attached fate
      refine ⟨same, ?_⟩
      rw [ids, ← here]
      exact List.mem_map_of_mem (List.mem_filter.2 ⟨among, live⟩)
  · intro unmet
    rw [ends.orphans, opening.orphansIn_of_unmet unmet]
  · intro ascend
    rw [ends.orphans, opening.orphansIn_of_ascends ascend, visits]

end Opening
end Job

namespace TwoStreams

/-- A vertex that exists, one that does not exist any more, and one that exists. -/
def sparse : List Read :=
  reads
    [ (4, [Relation.markerEntry]), (12, [plain]),
      (16, [Relation.markerEntry]) ]

/-- Entries of the first two of these vertices, and of vertices between and behind
them. -/
def dense : List Read :=
  reads
    [ (4, [plain]), (8, [plain]), (12, [plain]), (20, [plain]), (24, [plain]) ]

/-- The job over a stream that delivers more than there are vertices. -/
def straying : (job .fail).Opening (context sparse dense) Launch.ordinary :=
  opening .fail sparse dense

theorem items_of_two_streams_are_conserved :
    ∃ submitted outcome tally,
      straying.Runs IdLayout.standard submitted outcome ∧
      outcome.result = .ok tally ∧
      ∃ taken ledger,
        straying.Books IdLayout.standard taken ledger submitted outcome ∧
        ledger 0 =
          [ ⟨⟨4, [plain]⟩, .attached 4⟩, ⟨⟨8, [plain]⟩, .orphaned⟩,
            ⟨⟨12, [plain]⟩, .discarded 12⟩, ⟨⟨20, [plain]⟩, .orphaned⟩ ] ∧
        (ledger 0).map Settled.item = taken 0 ∧
        (∀ view ∈ submitted,
          view.fetched = straying.attachedTo ledger view.id) ∧
        tally.orphans = straying.orphansIn ledger ∧
        tally.orphans = 2 := by
  have succeeded : ((job .fail).execute IdLayout.standard
      (context sparse dense) Launch.ordinary).result =
        .ok ⟨2, 1, 0, 2, 0, 0, false⟩ := by
    decide +kernel
  have runs : straying.Runs IdLayout.standard _ _ := Job.Opening.Runs.clocked
  have books : straying.Books IdLayout.standard _ _ _ _ :=
    Job.Opening.Books.clocked
  obtain ⟨-, kept, -, -, -⟩ :=
    Job.Opening.items_are_conserved straying IdLayout.standard _ _ _ runs
      succeeded
  obtain ⟨moved, -, -, fetched, orphans⟩ := kept _ _ books
  have ledger : straying.ledger 0 =
      [ ⟨⟨4, [plain]⟩, .attached 4⟩, ⟨⟨8, [plain]⟩, .orphaned⟩,
        ⟨⟨12, [plain]⟩, .discarded 12⟩, ⟨⟨20, [plain]⟩, .orphaned⟩ ] := by
    decide +kernel
  exact ⟨_, _, _, runs, succeeded, _, _, books, ledger, moved 0, fetched,
    orphans, rfl⟩

end TwoStreams
end GraphSweep
