import GraphSweep.Proofs.Join.Course

/-!
# Joins of streams that are continued

Where a failing stream fails the job, a join that succeeds has never come to the end
of a failing lane. So it goes the same way when such a lane has further items where
it fails, whatever they are.
-/

namespace GraphSweep
namespace Lane

/-- The lane with further items behind its own, and another end. -/
def further (lane : Lane) (more : List Item) (ending : FeedEnd) : Lane :=
  { lane with
    rest := lane.rest ++ more
    ending := ending }

/-- A lane is continued by another: it is the same lane, or it fails and the other
one has further items there. -/
inductive ContinuedBy : Lane -> Lane -> Prop
  | same (lane : Lane) : ContinuedBy lane lane
  | longer
      {lane : Lane}
      {error : StorageError}
      (fails : lane.ending = .failed error)
      (more : List Item)
      (ending : FeedEnd) :
      ContinuedBy lane (lane.further more ending)

theorem ContinuedBy.query
    {lane other : Lane}
    (continued : lane.ContinuedBy other) :
    other.query = lane.query := by
  cases continued <;> rfl

theorem ContinuedBy.held
    {lane other : Lane}
    (continued : lane.ContinuedBy other) :
    other.held = lane.held := by
  cases continued <;> rfl

end Lane

/-- What a lane has for a vertex, and what a lane has that continues it. -/
structure Sought.ContinuedBy (sought other : Sought) : Prop where
  entries : other.entries = sought.entries
  dropped : other.dropped = sought.dropped
  lane : sought.lane.ContinuedBy other.lane

namespace Lane

/-- Items that lie behind those gone over make no difference for a failing lane that
has something for the vertex. -/
theorem seekItems_further
    {lane : Lane}
    {error : StorageError}
    {id : VertexId}
    {items : List Item}
    {sought : Sought}
    (fails : lane.ending = .failed error)
    (more : List Item)
    (ending : FeedEnd)
    (found : lane.seekItems .fail id items = .ok sought) :
    sought.lane.ending = .failed error ∧
      (lane.further more ending).seekItems .fail id (items ++ more) =
        .ok { sought with lane := sought.lane.further more ending } := by
  induction items generalizing sought with
  | nil =>
      rw [seekItems, fails] at found
      cases found
  | cons item rest hypothesis =>
      rw [seekItems] at found
      rw [List.cons_append, seekItems]
      by_cases earlier : item.id < id
      · rw [if_pos earlier] at found ⊢
        obtain ⟨later, seek, same⟩ := exists_of_bind_eq_ok found
        cases same
        obtain ⟨failsLater, foundLater⟩ := hypothesis seek
        refine ⟨failsLater, ?_⟩
        rw [foundLater]
        rfl
      · rw [if_neg earlier] at found ⊢
        by_cases same : item.id = id
        · rw [if_pos same] at found ⊢
          cases found
          exact ⟨fails, rfl⟩
        · rw [if_neg same] at found ⊢
          cases found
          exact ⟨fails, rfl⟩

/-- A lane that continues another one is advanced as that one is, if that one can
be. -/
theorem ContinuedBy.seek
    {lane other : Lane}
    {id : VertexId}
    {sought : Sought}
    (continued : lane.ContinuedBy other)
    (found : lane.seek .fail id = .ok sought) :
    ∃ reached, other.seek .fail id = .ok reached ∧
      sought.ContinuedBy reached := by
  cases continued with
  | same => exact ⟨sought, found, rfl, rfl, ContinuedBy.same sought.lane⟩
  | longer fails more ending =>
      obtain ⟨failsLater, foundLater⟩ :=
        seekItems_further fails more ending found
      have like : sought.ContinuedBy
          { sought with lane := sought.lane.further more ending } :=
        ⟨rfl, rfl, ContinuedBy.longer failsLater more ending⟩
      refine ⟨_, ?_, like⟩
      have pending : (lane.further more ending).held.toList ++
          (lane.further more ending).rest =
          (lane.held.toList ++ lane.rest) ++ more :=
        (List.append_assoc _ _ _).symm
      rw [Lane.seek, pending]
      exact foundLater

/-- Lanes that continue others are advanced as those are, if those can be. -/
theorem seekAll_continuedBy
    {lanes others : List Lane}
    {id : VertexId}
    {sought : List Sought}
    (continued : List.Forall₂ ContinuedBy lanes others)
    (found : seekAll .fail id lanes = .ok sought) :
    ∃ reached, seekAll .fail id others = .ok reached ∧
      List.Forall₂ Sought.ContinuedBy sought reached := by
  induction continued generalizing sought with
  | nil =>
      cases found
      exact ⟨[], rfl, List.Forall₂.nil⟩
  | @cons lane other lanes others head _ hypothesis =>
      rw [seekAll] at found
      obtain ⟨here, first, found⟩ := exists_of_bind_eq_ok found
      obtain ⟨there, later, found⟩ := exists_of_bind_eq_ok found
      cases found
      obtain ⟨reached, seeks, like⟩ := head.seek first
      obtain ⟨reachedLater, seeksLater, likeLater⟩ := hypothesis later
      refine ⟨reached :: reachedLater, ?_, List.Forall₂.cons like likeLater⟩
      rw [seekAll, seeks, seeksLater]
      rfl

/-- Lanes that continue others hold as many items as those do. -/
theorem held_continuedBy
    {lanes others : List Lane}
    (continued : List.Forall₂ ContinuedBy lanes others) :
    (others.filter fun lane => lane.held.isSome).length =
      (lanes.filter fun lane => lane.held.isSome).length := by
  induction continued with
  | nil => rfl
  | cons head _ hypothesis =>
      rw [List.filter_cons, List.filter_cons, head.held]
      split
      · rw [List.length_cons, List.length_cons, hypothesis]
      · exact hypothesis

end Lane

namespace Sought

variable {sought reached : List Sought}

theorem fetched_continuedBy
    (continued : List.Forall₂ ContinuedBy sought reached) :
    fetched reached = fetched sought := by
  induction continued with
  | nil => rfl
  | cons head _ hypothesis =>
      rw [fetched, fetched] at hypothesis
      rw [fetched, fetched, List.filterMap_cons, List.filterMap_cons,
        head.entries, head.lane.query, hypothesis]

theorem totalDropped_continuedBy
    (continued : List.Forall₂ ContinuedBy sought reached) :
    totalDropped reached = totalDropped sought := by
  induction continued with
  | nil => rfl
  | cons head _ hypothesis =>
      rw [totalDropped, totalDropped, head.dropped, hypothesis]

theorem lanes_continuedBy
    (continued : List.Forall₂ ContinuedBy sought reached) :
    List.Forall₂ Lane.ContinuedBy (sought.map lane) (reached.map lane) := by
  rw [List.forall₂_map_left_iff, List.forall₂_map_right_iff]
  exact continued.imp fun _ _ like => like.lane

end Sought

namespace Course

/-- A course is continued by another one that has noted the same and whose lanes
continue its lanes. -/
structure ContinuedBy (course other : Course) : Prop where
  account : other.account = course.account
  lanes : List.Forall₂ Lane.ContinuedBy course.lanes other.lanes

variable {course other : Course}

theorem ContinuedBy.close (continued : course.ContinuedBy other) :
    other.close = course.close := by
  rw [Course.close, Course.close, continued.account,
    Lane.held_continuedBy continued.lanes]

/-- One vertex of the first stream. -/
theorem ContinuedBy.step
    {next : Course}
    {item : Item}
    (continued : course.ContinuedBy other)
    (made : course.step .fail item = .ok next) :
    ∃ reached, other.step .fail item = .ok reached ∧
      next.ContinuedBy reached := by
  rw [Course.step] at made
  rw [Course.step, continued.account]
  by_cases past : course.account.isPast item.id
  · rw [if_pos past] at made ⊢
    cases made
    exact ⟨_, rfl, rfl, continued.lanes⟩
  · rw [if_neg past] at made ⊢
    obtain ⟨live, probe, made⟩ := exists_of_bind_eq_ok made
    obtain ⟨sought, seek, made⟩ := exists_of_bind_eq_ok made
    cases made
    obtain ⟨reached, seeks, like⟩ :=
      Lane.seekAll_continuedBy continued.lanes seek
    rw [probe, seeks]
    refine ⟨_, rfl, ?_, Sought.lanes_continuedBy like⟩
    dsimp only
    rw [Sought.fetched_continuedBy like, Sought.totalDropped_continuedBy like]

/-- A course that is continued by another one and succeeds ends as that one
does. -/
theorem ContinuedBy.run
    {last : Course}
    {ending : FeedEnd}
    {items : List Item}
    (continued : course.ContinuedBy other)
    (made : course.run .fail ending items = .ok last) :
    ∃ reached, other.run .fail ending items = .ok reached ∧
      last.ContinuedBy reached := by
  induction items generalizing course other with
  | nil =>
      rw [run_nil] at made ⊢
      cases ends : FailurePolicy.fail.atEnd 0 ending with
      | error error =>
          rw [ends] at made
          cases made
      | ok _ =>
          rw [ends] at made
          cases made
          exact ⟨other, rfl, continued⟩
  | cons item rest hypothesis =>
      rw [run_cons] at made ⊢
      obtain ⟨next, first, made⟩ := exists_of_bind_eq_ok made
      obtain ⟨reached, steps, like⟩ := continued.step first
      rw [steps]
      exact hypothesis like made

end Course
end GraphSweep
