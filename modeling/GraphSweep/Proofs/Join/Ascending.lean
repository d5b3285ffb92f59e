import GraphSweep.Proofs.Join.Course

/-!
# Joins of ascending streams

Where the vertices of every stream ascend, a join has a closed form. The vertices
of the first stream are handled one after another; for each of them every lane has
the entries of the item of that vertex, if there is one, and a failing lane is in
the way exactly when all its items come before the vertex. The first failure in the
way ends the join.
-/

namespace GraphSweep

namespace JobError

/-- How something ends that the first of some failures stops. -/
def first : List JobError -> Except JobError Unit
  | [] => .ok ()
  | error :: _ => .error error

theorem first_append (errors others : List JobError) :
    first (errors ++ others) = (first errors).bind fun _ => first others := by
  cases errors <;> rfl

end JobError

namespace FailurePolicy

/-- The failure that the end of a stream is, if it is one. -/
def failures (policy : FailurePolicy) (stream : Nat) :
    FeedEnd -> List JobError
  | .exhausted => []
  | .failed error =>
      match policy with
      | .fail => [.readFailed stream error]
      | .truncate => []

theorem atEnd_eq_first
    (policy : FailurePolicy)
    (stream : Nat)
    (ending : FeedEnd) :
    policy.atEnd stream ending =
      JobError.first (policy.failures stream ending) := by
  cases ending with
  | exhausted => rfl
  | failed error => cases policy <;> rfl

end FailurePolicy

namespace Item

/-- The failure that reading the probe of a vertex is, if it is one: there is no
entry, or the first one cannot be read. -/
def failures (item : Item) : List JobError :=
  match item.entries with
  | [] => [.probeDecode item.id (.decode .probeEmpty)]
  | probe :: _ =>
      match Relation.ofEntry item.id probe with
      | .error error => [.probeDecode item.id error]
      | .ok _ => []

/-- Whether the first entry of a vertex marks it as existing. -/
def isLive (item : Item) : Bool :=
  match item.entries with
  | [] => false
  | probe :: _ =>
      match Relation.ofEntry item.id probe with
      | .error _ => false
      | .ok relation => relation.type == Relation.markerType

theorem exists?_eq (item : Item) :
    item.exists? =
      (JobError.first item.failures).map fun _ => item.isLive := by
  rw [exists?, failures, isLive]
  cases item.entries with
  | nil => rfl
  | cons probe rest =>
      dsimp only
      cases Relation.ofEntry item.id probe <;> rfl

/-- A probe that can be read tells whether the vertex exists. -/
theorem of_exists?
    {item : Item}
    {live : Bool}
    (exist : item.exists? = .ok live) :
    item.failures = [] ∧ live = item.isLive := by
  rw [item.exists?_eq] at exist
  cases failures : item.failures with
  | nil =>
      rw [failures] at exist
      exact ⟨rfl, (Except.ok.inj exist).symm⟩
  | cons error others =>
      rw [failures] at exist
      cases exist

/-- Some items whose vertices strictly ascend. -/
def Ascend (items : List Item) : Prop :=
  items.Pairwise fun item other => item.id < other.id

/-- The entries of a vertex among some items. -/
def entriesOf? (items : List Item) (id : VertexId) : Option (List Entry) :=
  (items.find? fun item => item.id = id).map entries

/-- The items of later vertices. -/
def after (items : List Item) (id : VertexId) : List Item :=
  items.filter fun item => id < item.id

/-- Whether all of some items come before a vertex. -/
def allBefore (items : List Item) (id : VertexId) : Bool :=
  items.all fun item => item.id < id

section After

variable {items : List Item} {past id : VertexId}

theorem Ascend.after (ascend : Ascend items) (id : VertexId) :
    Ascend (Item.after items id) :=
  List.Pairwise.filter _ ascend

/-- Items of earlier vertices do not matter for whether all come before one. -/
theorem allBefore_after (later : past < id) :
    allBefore (after items past) id = allBefore items id := by
  rw [allBefore, allBefore, after, List.all_filter]
  congr 1
  funext item
  by_cases reached : past < item.id
  · simp [reached]
  · have early : item.id < id :=
      Int64.lt_of_le_of_lt (Int64.not_lt.1 reached) later
    simp [reached, early]

/-- Items of earlier vertices do not matter for the entries of one. -/
theorem entriesOf?_after (later : past < id) :
    entriesOf? (after items past) id = entriesOf? items id := by
  rw [entriesOf?, entriesOf?, after, List.find?_filter]
  congr 2
  funext item
  by_cases same : item.id = id
  · simp [same, later]
  · simp [same]

theorem after_after (later : past < id) :
    after (after items past) id = after items id := by
  rw [after, after, after, List.filter_filter]
  apply List.filter_congr
  intro item _
  by_cases reached : id < item.id
  · simp [reached, Int64.lt_trans later reached]
  · simp [reached]

end After

section Ascend

variable {items rest : List Item} {item : Item} {id : VertexId}

/-- There is no entry of a vertex that has no item. -/
theorem entriesOf?_eq_none (absent : ∀ item ∈ items, item.id ≠ id) :
    entriesOf? items id = none := by
  rw [entriesOf?, Option.map_eq_none_iff, List.find?_eq_none]
  intro item member
  simpa using absent item member

/-- Among ascending items, each is the one of its vertex. -/
theorem entriesOf?_of_mem
    (ascend : Ascend items)
    (member : item ∈ items) :
    entriesOf? items item.id = some item.entries := by
  induction items with
  | nil => cases member
  | cons first rest hypothesis =>
      obtain ⟨earlier, ascendRest⟩ := List.pairwise_cons.1 ascend
      rcases List.mem_cons.1 member with rfl | later
      · simp [entriesOf?]
      · have apart : first.id ≠ item.id := Int64.ne_of_lt (earlier item later)
        rw [entriesOf?, List.find?_cons_of_neg (by simpa using apart)]
        exact hypothesis ascendRest later

/-- A vertex before the first of ascending items comes before all of them. -/
theorem Ascend.before
    (ascend : Ascend (item :: rest))
    (early : id < item.id) :
    ∀ other ∈ item :: rest, id < other.id := by
  intro other member
  rcases List.mem_cons.1 member with rfl | behind
  · exact early
  · have later := (List.pairwise_cons.1 ascend).1 other behind
    exact Int64.lt_trans early later

theorem Ascend.after_of_before
    (ascend : Ascend (item :: rest))
    (early : id < item.id) :
    Item.after (item :: rest) id = item :: rest := by
  rw [Item.after, List.filter_eq_self]
  intro other member
  simpa using ascend.before early other member

/-- What lies behind the first of ascending items is all the rest. -/
theorem Ascend.after_head (ascend : Ascend (item :: rest)) :
    Item.after (item :: rest) item.id = rest := by
  rw [Item.after, List.filter_cons_of_neg (by simp), List.filter_eq_self]
  intro other member
  simpa using (List.pairwise_cons.1 ascend).1 other member

end Ascend
end Item

/-! ## Lanes -/

namespace Lane

/-- The items of a lane that no vertex has claimed yet, in order. -/
def pending (lane : Lane) : List Item := lane.held.toList ++ lane.rest

/-- The failure of a lane that is in the way to a vertex, if one is. -/
def failures
    (policy : FailurePolicy)
    (id : VertexId)
    (lane : Lane) : List JobError :=
  if Item.allBefore lane.pending id then
    policy.failures lane.stream lane.ending
  else []

/-- The entries that some lanes have for a vertex, by their queries. -/
def fetchedFor (lanes : List Lane) (id : VertexId) :
    List (Slice × List Entry) :=
  lanes.filterMap fun lane =>
    (Item.entriesOf? lane.pending id).map fun entries => (lane.query, entries)

/-- A lane has been advanced from its origin past a vertex. -/
structure Passed (id : VertexId) (origin lane : Lane) : Prop where
  stream : lane.stream = origin.stream
  query : lane.query = origin.query
  ending : lane.ending = origin.ending
  pending : lane.pending = Item.after origin.pending id

/-- A lane has been advanced from its origin past the last vertex, if there was
one. -/
def Reached (last : Option VertexId) (origin lane : Lane) : Prop :=
  match last with
  | none => lane = origin
  | some id => origin.Passed id lane

/-- Going over ascending items finds that of the vertex and keeps the later
ones. -/
theorem seekItems_of_ascend
    (policy : FailurePolicy)
    (lane : Lane)
    (id : VertexId)
    {items : List Item}
    (ascend : Item.Ascend items) :
    ∃ next dropped,
      next.stream = lane.stream ∧ next.query = lane.query ∧
      next.ending = lane.ending ∧ next.pending = Item.after items id ∧
      lane.seekItems policy id items =
        (if Item.allBefore items id then
          policy.atEnd lane.stream lane.ending
        else .ok ()).map fun _ => ⟨Item.entriesOf? items id, next, dropped⟩ := by
  induction items with
  | nil =>
      refine ⟨{ lane with held := none, rest := [] }, 0, rfl, rfl, rfl, rfl, ?_⟩
      rw [seekItems]
      cases policy.atEnd lane.stream lane.ending <;> rfl
  | cons item rest hypothesis =>
      have ascendRest : Item.Ascend rest := List.Pairwise.of_cons ascend
      rw [seekItems]
      by_cases earlier : item.id < id
      · obtain ⟨next, dropped, stream, query, ending, pending, found⟩ :=
          hypothesis ascendRest
        have other : item.id ≠ id := Int64.ne_of_lt earlier
        have unreached : ¬id < item.id := Int64.lt_asymm earlier
        refine ⟨next, dropped + 1, stream, query, ending, ?_, ?_⟩
        · rw [pending, Item.after, Item.after,
            List.filter_cons_of_neg (by simpa using unreached)]
        · have before : Item.allBefore (item :: rest) id =
              Item.allBefore rest id := by
            simp [Item.allBefore, earlier]
          have entries : Item.entriesOf? (item :: rest) id =
              Item.entriesOf? rest id := by
            simp [Item.entriesOf?, other]
          rw [if_pos earlier, found, before, entries]
          cases (if Item.allBefore rest id = true then
            policy.atEnd lane.stream lane.ending else .ok ()) <;> rfl
      · have before : Item.allBefore (item :: rest) id = false := by
          simp [Item.allBefore, earlier]
        rw [if_neg earlier, before]
        by_cases same : item.id = id
        · have later : Item.after (item :: rest) id = rest := by
            rw [← same]
            exact ascend.after_head
          refine ⟨{ lane with held := none, rest := rest }, 0, rfl, rfl, rfl,
            later.symm, ?_⟩
          rw [if_pos same]
          simp [Item.entriesOf?, same, Except.map]
        · have early : id < item.id :=
            Int64.lt_of_le_of_ne (Int64.not_lt.1 earlier) (Ne.symm same)
          have absent : Item.entriesOf? (item :: rest) id = none := by
            apply Item.entriesOf?_eq_none
            intro other member
            exact Ne.symm (Int64.ne_of_lt (ascend.before early other member))
          refine ⟨{ lane with held := some item, rest := rest }, 0, rfl, rfl,
            rfl, (ascend.after_of_before early).symm, ?_⟩
          rw [if_neg same, absent]
          rfl

/-- Advancing a lane to a later vertex. -/
theorem Reached.seek
    {last : Option VertexId}
    {origin lane : Lane}
    (policy : FailurePolicy)
    {id : VertexId}
    (ascend : Item.Ascend origin.pending)
    (reached : Reached last origin lane)
    (later : ∀ past, last = some past -> past < id) :
    ∃ next dropped, origin.Passed id next ∧
      lane.seek policy id =
        (JobError.first (origin.failures policy id)).map fun _ =>
          ⟨Item.entriesOf? origin.pending id, next, dropped⟩ := by
  have alike : lane.stream = origin.stream ∧ lane.query = origin.query ∧
      lane.ending = origin.ending ∧ Item.Ascend lane.pending ∧
      Item.allBefore lane.pending id = Item.allBefore origin.pending id ∧
      Item.entriesOf? lane.pending id = Item.entriesOf? origin.pending id ∧
      Item.after lane.pending id = Item.after origin.pending id := by
    cases last with
    | none =>
        have same : lane = origin := reached
        rw [same]
        exact ⟨rfl, rfl, rfl, ascend, rfl, rfl, rfl⟩
    | some past =>
        have passed : origin.Passed past lane := reached
        have behind := later past rfl
        rw [passed.pending]
        exact ⟨passed.stream, passed.query, passed.ending, ascend.after past,
          Item.allBefore_after behind, Item.entriesOf?_after behind,
          Item.after_after behind⟩
  obtain ⟨stream, query, ending, ascends, before, entries, after⟩ := alike
  obtain ⟨next, dropped, nextStream, nextQuery, nextEnding, pending, found⟩ :=
    seekItems_of_ascend policy lane id ascends
  refine ⟨next, dropped, ⟨nextStream.trans stream, nextQuery.trans query,
    nextEnding.trans ending, pending.trans after⟩, ?_⟩
  have unfolded : lane.seek policy id = lane.seekItems policy id lane.pending :=
    rfl
  rw [unfolded, found, before, entries, stream, ending, failures]
  split
  · rw [FailurePolicy.atEnd_eq_first]
  · rfl

/-- Advancing all lanes to a later vertex: the first failure in the way ends it. -/
theorem seekAll_of_reached
    {last : Option VertexId}
    {origins lanes : List Lane}
    (policy : FailurePolicy)
    {id : VertexId}
    (ascend : ∀ origin ∈ origins, Item.Ascend origin.pending)
    (reached : List.Forall₂ (Reached last) origins lanes)
    (later : ∀ past, last = some past -> past < id) :
    ∃ sought : List Sought,
      List.Forall₂ (fun origin found => origin.Passed id found.lane) origins
        sought ∧
      Sought.fetched sought = fetchedFor origins id ∧
      seekAll policy id lanes =
        (JobError.first (origins.flatMap (failures policy id))).map fun _ =>
          sought := by
  induction reached with
  | nil => exact ⟨[], List.Forall₂.nil, rfl, rfl⟩
  | @cons origin lane origins lanes head _ hypothesis =>
      obtain ⟨next, dropped, passed, found⟩ :=
        head.seek policy (ascend origin List.mem_cons_self) later
      obtain ⟨others, passedOthers, fetched, foundOthers⟩ := hypothesis
        fun other member => ascend other (List.mem_cons_of_mem origin member)
      refine ⟨⟨Item.entriesOf? origin.pending id, next, dropped⟩ :: others,
        List.Forall₂.cons passed passedOthers, ?_, ?_⟩
      · rw [Sought.fetched, List.filterMap_cons, passed.query]
        rw [Sought.fetched] at fetched
        rw [fetched, fetchedFor, fetchedFor, List.filterMap_cons]
      · rw [seekAll, found, foundOthers, List.flatMap_cons,
          JobError.first_append]
        cases JobError.first (origin.failures policy id) with
        | error error => rfl
        | ok _ =>
            cases JobError.first (origins.flatMap (failures policy id)) <;> rfl

end Lane

/-! ## Courses -/

namespace Course

/-- The failures in the way to a vertex of the first stream, in the order in which
the join meets them. -/
def failuresAt
    (policy : FailurePolicy)
    (origins : List Lane)
    (item : Item) : List JobError :=
  item.failures ++ origins.flatMap (Lane.failures policy item.id)

/-- The view of a vertex, with the entries that the lanes have for it. -/
def viewOf (origins : List Lane) (item : Item) : View :=
  ⟨item.id, Lane.fetchedFor origins item.id⟩

/-- A course that has been taken from its origin up to the vertex named last. -/
def Reached (origins : List Lane) (course : Course) : Prop :=
  List.Forall₂ (Lane.Reached course.account.last) origins course.lanes

section Run

variable {origins : List Lane} {course : Course}

/-- One vertex of the first stream, after those named before. -/
theorem step_of_reached
    (policy : FailurePolicy)
    {item : Item}
    (ascend : ∀ origin ∈ origins, Item.Ascend origin.pending)
    (reached : course.Reached origins)
    (later : ∀ past, course.account.last = some past -> past < item.id) :
    ∃ next : Course,
      next.Reached origins ∧ next.account.last = some item.id ∧
      next.account.views =
        course.account.views ++
          (if item.isLive then [viewOf origins item] else []) ∧
      course.step policy item =
        (JobError.first (failuresAt policy origins item)).map fun _ => next := by
  obtain ⟨sought, passed, fetched, found⟩ :=
    Lane.seekAll_of_reached policy ascend reached later
  have fresh : course.account.isPast item.id = false := by
    rw [Account.isPast]
    cases last : course.account.last with
    | none => rfl
    | some past => simpa using later past last
  have lanes : List.Forall₂ (Lane.Reached (some item.id)) origins
      (sought.map Sought.lane) := by
    rw [List.forall₂_map_right_iff]
    exact passed
  refine ⟨⟨((course.account.meet item.id).drop
      (Sought.totalDropped sought)).settle item.isLive
        ⟨item.id, Sought.fetched sought⟩, sought.map Sought.lane⟩, ?_, ?_, ?_, ?_⟩
  · rw [Reached]
    cases item.isLive <;> exact lanes
  · cases item.isLive <;> rfl
  · rw [fetched]
    cases item.isLive with
    | true => rfl
    | false => exact (List.append_nil _).symm
  · rw [step, if_neg (by simp [fresh]), found, failuresAt, item.exists?_eq,
      JobError.first_append]
    cases JobError.first item.failures with
    | error error => rfl
    | ok _ =>
        cases JobError.first
          (origins.flatMap (Lane.failures policy item.id)) <;> rfl

/-- All that may be in the way of a join. -/
def failures
    (policy : FailurePolicy)
    (origins : List Lane)
    (items : List Item)
    (ending : FeedEnd) : List JobError :=
  items.flatMap (failuresAt policy origins) ++ policy.failures 0 ending

/-- What a join of ascending streams comes to: the first failure in its way, or the
views of the vertices that exist, in order. -/
theorem views_run
    {items : List Item}
    (policy : FailurePolicy)
    (ascend : ∀ origin ∈ origins, Item.Ascend origin.pending)
    (reached : course.Reached origins)
    (ascendItems : Item.Ascend items)
    (later : ∀ past, course.account.last = some past ->
      ∀ item ∈ items, past < item.id)
    (ending : FeedEnd) :
    (course.run policy ending items).map (fun last => last.account.views) =
      (JobError.first (failures policy origins items ending)).map fun _ =>
        course.account.views ++
          (items.filter Item.isLive).map (viewOf origins) := by
  induction items generalizing course with
  | nil =>
      rw [run_nil, FailurePolicy.atEnd_eq_first, failures, List.flatMap_nil,
        List.nil_append]
      have none : course.account.views ++
          (([] : List Item).filter Item.isLive).map (viewOf origins) =
          course.account.views := List.append_nil _
      rw [none]
      cases JobError.first (policy.failures 0 ending) <;> rfl
  | cons item rest hypothesis =>
      obtain ⟨first, ascendRest⟩ := List.pairwise_cons.1 ascendItems
      obtain ⟨next, reachedNext, last, views, stepped⟩ :=
        step_of_reached policy ascend reached
          fun past named => later past named item List.mem_cons_self
      have remaining := hypothesis reachedNext ascendRest
        fun past named other member => by
          rw [last] at named
          cases named
          exact first other member
      have whole : failures policy origins (item :: rest) ending =
          failuresAt policy origins item ++
            failures policy origins rest ending := by
        rw [failures, failures, List.flatMap_cons, List.append_assoc]
      have split : course.account.views ++
          ((item :: rest).filter Item.isLive).map (viewOf origins) =
          next.account.views ++
            (rest.filter Item.isLive).map (viewOf origins) := by
        rw [views, List.append_assoc, List.filter_cons]
        cases item.isLive <;> rfl
      rw [run_cons, stepped, whole, JobError.first_append, split]
      cases JobError.first (failuresAt policy origins item) with
      | error error => rfl
      | ok _ => exact remaining

end Run
end Course
end GraphSweep
